import PromptBook.Legacy.Section
import PromptBook.Proofs.Placeholder.Braces
import PromptBook.Proofs.Text.Trimming

/-!
# Cutting a text into segments

How `scan` works on texts that are put together from others.  Text without braces is passed over,
and nothing before the end of a block has a say in how the text after it is cut, so the segments
between two blocks are the segments of their own text.

**Results.**
* `scan_append_plain`, `scan_block`: reading text without braces, and a block.
* `scan_trim`: white space at the ends of a text stays outside its blocks.
* `Stable.split`: a scan falls apart at every block into scans.
* `cut_stable`: what stands between two role markers is the scan of its text.
-/

namespace PromptBook
namespace Legacy

open Placeholder (BraceFree isBrace isBrace_eq_false_iff)

variable {cs plain rest : List Char} {inner : List Char} {state : Option (List Char)}

section Reading

theorem scanFrom_none_cons {c : Char} (hc : c ≠ '{') (rest : List Char) :
    scanFrom none (c :: rest) = .char c :: scanFrom none rest :=
  scanFrom.eq_4 c rest fun _ h _ => hc h

theorem scanFrom_some_cons {c : Char} (hopen : c ≠ '{') (hclose : c ≠ '}')
    (inner rest : List Char) :
    scanFrom (some inner) (c :: rest) = scanFrom (some (c :: inner)) rest :=
  scanFrom.eq_5 inner c rest (fun _ h _ => hopen h) (fun _ h _ => hclose h)

/-- Outside blocks, text without braces is passed over. -/
theorem scan_append_plain (hplain : BraceFree plain) (rest : List Char) :
    scan (plain ++ rest) = plain.map .char ++ scan rest := by
  induction plain with
  | nil =>
      rfl
  | cons c plain ih =>
      obtain ⟨hopen, _⟩ := isBrace_eq_false_iff.mp (hplain c (by simp))
      have hrest : BraceFree plain := fun d hd => hplain d (by simp [hd])
      simp only [scan, List.cons_append, List.map_cons, scanFrom_none_cons hopen] at ih ⊢
      rw [ih hrest]

/-- Inside a block, text without braces becomes part of the block. -/
theorem scanFrom_some_append_plain (hplain : BraceFree plain) (inner rest : List Char) :
    scanFrom (some inner) (plain ++ rest) = scanFrom (some (plain.reverse ++ inner)) rest := by
  induction plain generalizing inner with
  | nil =>
      rfl
  | cons c plain ih =>
      obtain ⟨hopen, hclose⟩ := isBrace_eq_false_iff.mp (hplain c (by simp))
      have hrest : BraceFree plain := fun d hd => hplain d (by simp [hd])
      rw [List.cons_append, scanFrom_some_cons hopen hclose, ih hrest]
      simp

/-- Text without braces between an opener and a closer is a block. -/
theorem scan_block (hplain : BraceFree plain) (rest : List Char) :
    scan ((Segment.block plain).text ++ rest) = .block plain :: scan rest := by
  have htext : (Segment.block plain).text ++ rest =
      '{' :: '{' :: (plain ++ '}' :: '}' :: rest) := by
    simp [Segment.text]
  have hopen : scan ('{' :: '{' :: (plain ++ '}' :: '}' :: rest)) =
      scanFrom (some []) (plain ++ '}' :: '}' :: rest) := rfl
  rw [htext, hopen, scanFrom_some_append_plain hplain]
  simp [scanFrom, scan]

end Reading

section Ends

/-- A brace at the beginning of a text that goes on without braces stands in the text itself. -/
theorem eq_cons_of_append_plain {c : Char} (hbrace : isBrace c = true) (hplain : BraceFree plain)
    (h : cs ++ plain = c :: rest) :
    ∃ tail, cs = c :: tail := by
  cases cs with
  | nil =>
      have hno := hplain c (by simp [show plain = c :: rest from h])
      rw [hbrace] at hno
      cases hno
  | cons d tail =>
      obtain ⟨rfl, _⟩ := List.cons.inj h
      exact ⟨tail, rfl⟩

/-- Two braces that do not stand side by side in a text do not if it goes on without braces. -/
theorem no_pair_append {brace c : Char} (hbrace : isBrace brace = true) (hplain : BraceFree plain)
    (h : ∀ tail, c = brace → cs = brace :: tail → False) :
    ∀ tail, c = brace → cs ++ plain = brace :: tail → False := by
  intro tail hc happend
  obtain ⟨tail', htail⟩ := eq_cons_of_append_plain hbrace hplain happend
  exact h tail' hc htail

/-- Text without braces at the end of a text is cut into its characters. -/
theorem scanFrom_append_plain (hplain : BraceFree plain) (state : Option (List Char))
    (cs : List Char) :
    scanFrom state (cs ++ plain) = scanFrom state cs ++ plain.map .char := by
  -- Along the scan: a pair of braces is found within the text or not at all.
  fun_induction scanFrom state cs with
  | case1 cs ih =>
      exact ih
  | case2 inner cs ih =>
      rw [List.append_assoc, ← ih]
      rfl
  | case3 inner cs ih =>
      have hblock : scanFrom (some inner) ('}' :: '}' :: (cs ++ plain)) =
          .block inner.reverse :: scanFrom none (cs ++ plain) := rfl
      exact hblock.trans (by rw [ih]; rfl)
  | case4 c cs hopen ih =>
      have hopen' := no_pair_append (by decide) hplain hopen
      rw [List.cons_append, List.cons_append, scanFrom.eq_4 c _ hopen', ih]
  | case5 inner c cs hopen hclose ih =>
      have hopen' := no_pair_append (by decide) hplain hopen
      have hclose' := no_pair_append (by decide) hplain hclose
      rw [List.cons_append, scanFrom.eq_5 inner c _ hopen' hclose', ih]
  | case6 =>
      simpa [scan, scanFrom] using scan_append_plain hplain []
  | case7 inner =>
      have h := scanFrom_some_append_plain hplain inner []
      simp only [List.append_nil] at h
      rw [List.nil_append, h]
      simp [scanFrom, unopened]

/-- White space at the ends of a text stays outside its blocks. -/
theorem scan_trim (cs : List Char) :
    ∃ trail : List Char, (∀ c ∈ trail, Text.isBlank c = true) ∧
      scan cs = (cs.takeWhile Text.isBlank).map .char ++
        (scan (Text.trim cs) ++ trail.map .char) := by
  obtain ⟨trail, htrail, hcs⟩ := Text.exists_trail Text.isBlank cs
  have hlead : ∀ c ∈ cs.takeWhile Text.isBlank, Text.isBlank c = true :=
    fun c hc => List.mem_takeWhile_imp hc
  refine ⟨trail, htrail, ?_⟩
  calc
    scan cs = scan (cs.takeWhile Text.isBlank ++ (Text.trim cs ++ trail)) := congrArg scan hcs
    _ = (cs.takeWhile Text.isBlank).map .char ++ scan (Text.trim cs ++ trail) :=
        scan_append_plain (.of_blank hlead) _
    _ = (cs.takeWhile Text.isBlank).map .char ++
          (scan (Text.trim cs) ++ trail.map .char) := by
        rw [scan, scanFrom_append_plain (.of_blank htrail)]
        rfl

end Ends

section Splitting

/-- Segments that are the scan of their own text. -/
def Stable (segments : List Segment) : Prop :=
  scan (Segment.render segments) = segments

theorem stable_scan (cs : List Char) : Stable (scan cs) := by
  unfold Stable
  rw [render_scan]

variable {before after segments : List Segment} {block : List Char}

/-- A block among segments that begin with characters comes after those. -/
theorem exists_of_chars_append
    (h : cs.map .char ++ segments = before ++ .block block :: after) :
    ∃ between, before = cs.map .char ++ between ∧
      segments = between ++ .block block :: after := by
  induction cs generalizing before with
  | nil =>
      exact ⟨before, rfl, h⟩
  | cons c cs ih =>
      cases before with
      | nil =>
          simp at h
      | cons s before =>
          obtain ⟨rfl, htail⟩ := List.cons.inj h
          obtain ⟨between, rfl, hsegments⟩ := ih htail
          exact ⟨between, rfl, hsegments⟩

/-- After a block, a text is cut as if it began there. -/
theorem exists_scan_after_block (h : scanFrom state cs = before ++ .block block :: after) :
    ∃ rest, scan rest = after := by
  fun_induction scanFrom state cs generalizing before with
  | case1 cs ih =>
      exact ih h
  | case2 inner cs ih =>
      obtain ⟨between, _, hrest⟩ := exists_of_chars_append h
      exact ih hrest
  | case3 inner cs ih =>
      cases before with
      | nil =>
          exact ⟨cs, (List.cons.inj h).2⟩
      | cons s before =>
          exact ih (List.cons.inj h).2
  | case4 c cs hopen ih =>
      cases before with
      | nil =>
          simp at h
      | cons s before =>
          exact ih (List.cons.inj h).2
  | case5 inner c cs hopen hclose ih =>
      exact ih h
  | case6 =>
      simp at h
  | case7 inner =>
      rw [← List.append_nil (unopened inner.reverse)] at h
      obtain ⟨between, _, hrest⟩ := exists_of_chars_append h
      simp at hrest

/-- Two braces that do not stand side by side in a text do not where it ends earlier. -/
theorem no_pair_of_append {brace c : Char} {front back : List Char}
    (h : ∀ tail, c = brace → front ++ back = brace :: tail → False) :
    ∀ tail, c = brace → front = brace :: tail → False := by
  rintro tail hc rfl
  exact h (tail ++ back) hc rfl

/--
Up to a block, a text is cut as if it ended there.  Nothing stands before the block if the scan is
inside it from the start.
-/
theorem exists_scan_before_block (h : scanFrom state cs = before ++ .block block :: after) :
    before = [] ∨ ∃ front back, cs = front ++ back ∧ scanFrom state front = before := by
  -- Along the scan: what was passed over goes to the front, once there is something to cut there.
  fun_induction scanFrom state cs generalizing before with
  | case1 cs ih =>
      right
      rcases ih h with rfl | ⟨front, back, rfl, hfront⟩
      · exact ⟨[], _, rfl, rfl⟩
      · exact ⟨'{' :: '{' :: front, back, rfl, hfront⟩
  | case2 inner cs ih =>
      right
      obtain ⟨between, rfl, hrest⟩ := exists_of_chars_append h
      rcases ih hrest with rfl | ⟨front, back, rfl, hfront⟩
      · exact ⟨[], _, rfl, by simp [scanFrom, unopened]⟩
      · refine ⟨'{' :: '{' :: front, back, rfl, ?_⟩
        rw [← hfront]
        rfl
  | case3 inner cs ih =>
      cases before with
      | nil =>
          exact Or.inl rfl
      | cons s before =>
          right
          obtain ⟨rfl, htail⟩ := List.cons.inj h
          rcases ih htail with rfl | ⟨front, back, rfl, hfront⟩
          · exact ⟨['}', '}'], cs, rfl, rfl⟩
          · refine ⟨'}' :: '}' :: front, back, rfl, ?_⟩
            rw [← hfront]
            rfl
  | case4 c cs hopen ih =>
      cases before with
      | nil =>
          simp at h
      | cons s before =>
          right
          obtain ⟨rfl, htail⟩ := List.cons.inj h
          rcases ih htail with rfl | ⟨front, back, rfl, hfront⟩
          · exact ⟨[c], cs, rfl, scanFrom.eq_4 c [] (fun _ _ h => by cases h)⟩
          · have hopen' := no_pair_of_append hopen
            refine ⟨c :: front, back, rfl, ?_⟩
            rw [scanFrom.eq_4 c front hopen', hfront]
  | case5 inner c cs hopen hclose ih =>
      rcases ih h with rfl | ⟨front, back, rfl, hfront⟩
      · exact Or.inl rfl
      · right
        have hopen' := no_pair_of_append hopen
        have hclose' := no_pair_of_append hclose
        refine ⟨c :: front, back, rfl, ?_⟩
        rw [scanFrom.eq_5 inner c front hopen' hclose', hfront]
  | case6 =>
      simp at h
  | case7 inner =>
      rw [← List.append_nil (unopened inner.reverse)] at h
      obtain ⟨between, _, hrest⟩ := exists_of_chars_append h
      simp at hrest

/-- A scan falls apart at a block into two scans. -/
theorem Stable.split (h : Stable (before ++ .block block :: after)) :
    Stable before ∧ Stable after := by
  obtain ⟨rest, rfl⟩ := exists_scan_after_block h
  refine ⟨?_, stable_scan rest⟩
  rcases exists_scan_before_block h with rfl | ⟨front, _, _, rfl⟩
  · rfl
  · exact stable_scan front

end Splitting

section Cutting

theorem cut_cons_of_marker {segment : Segment} {argument : List Char}
    (h : roleArgument? segment = some argument) (rest : List Segment) :
    cut (segment :: rest) = ([], (argument, (cut rest).1) :: (cut rest).2) := by
  simp [cut, h]

theorem cut_cons_of_other {segment : Segment} (h : roleArgument? segment = none)
    (rest : List Segment) :
    cut (segment :: rest) = (segment :: (cut rest).1, (cut rest).2) := by
  simp [cut, h]

theorem cut_append_of_others {before : List Segment}
    (h : ∀ s ∈ before, roleArgument? s = none) (rest : List Segment) :
    cut (before ++ rest) = (before ++ (cut rest).1, (cut rest).2) := by
  induction before with
  | nil =>
      rfl
  | cons s before ih =>
      obtain ⟨hs, hbefore⟩ := List.forall_mem_cons.mp h
      rw [List.cons_append, cut_cons_of_other hs, ih hbefore]
      rfl

/-- Role markers are blocks. -/
theorem exists_block_of_roleArgument? {segment : Segment} {argument : List Char}
    (h : roleArgument? segment = some argument) :
    ∃ inner, segment = .block inner := by
  cases segment with
  | char c =>
      cases h
  | block inner =>
      exact ⟨inner, rfl⟩

theorem cut_stable_append (h : Stable (before ++ segments)) :
    Stable (before ++ (cut segments).1) ∧ ∀ marked ∈ (cut segments).2, Stable marked.2 := by
  induction segments generalizing before with
  | nil =>
      exact ⟨h, by simp [cut]⟩
  | cons s rest ih =>
      cases hs : roleArgument? s with
      | none =>
          rw [cut_cons_of_other hs]
          rw [← List.singleton_append, ← List.append_assoc] at h
          simpa using ih h
      | some argument =>
          obtain ⟨inner, rfl⟩ := exists_block_of_roleArgument? hs
          obtain ⟨hbefore, hafter⟩ := h.split
          have hrest : Stable ([] ++ rest) := hafter
          obtain ⟨hfirst, hothers⟩ := ih hrest
          rw [cut_cons_of_marker hs]
          refine ⟨by simpa using hbefore, ?_⟩
          intro marked hmarked
          rcases List.mem_cons.mp hmarked with rfl | hmarked
          · exact hfirst
          · exact hothers marked hmarked

/-- What stands between two role markers of a text is the scan of its own text. -/
theorem cut_stable (cs : List Char) : ∀ marked ∈ (cut (scan cs)).2, Stable marked.2 := by
  have h : Stable ([] ++ scan cs) := stable_scan cs
  exact (cut_stable_append h).2

end Cutting

end Legacy
end PromptBook
