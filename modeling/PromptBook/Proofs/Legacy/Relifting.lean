import PromptBook.Proofs.Legacy.Lifting
import Mathlib.Data.List.Chain

/-!
# Lifting media twice

A section is read once, and its media blocks are taken out.  Where they were, the texts before and
after them meet, and an opener that began no block may meet a closer that ended none.  So what is
left may hold a media block that was not there before.  That depends on each stretch of text between
two blocks that stay, and on nothing else: a block that stays is read as before, whatever the text
before it has become.

**Results.**
* `scan_around_block`: a text is read before a block and after it, if its braces are paired before.
* `spaced_scan`: so are the braces of a text before each of its blocks.
* `mediaArguments_scan_withoutMedia`: what is left is read stretch by stretch.
* `lift_again_iff`: whether a second lifting finds nothing.
* `media_of_lifted`: a section where it finds something.
-/

namespace PromptBook
namespace Legacy

open Placeholder (addNew isBrace isBrace_eq_false_iff)

variable {cs u v w : List Char} {c d : Char} {inner : List Char} {segments : List Segment}
  {state : Option (List Char)}

section Braces

/-- Opening braces, taken in pairs from the left, leave none alone at the end. -/
inductive Paired : List Char → Prop
  | nil : Paired []
  | pair {cs : List Char} (h : Paired cs) : Paired ('{' :: '{' :: cs)
  | single {c : Char} {cs : List Char} (hc : c ≠ '{') (h : Paired (c :: cs)) :
      Paired ('{' :: c :: cs)
  | cons {c : Char} {cs : List Char} (hc : c ≠ '{') (h : Paired cs) : Paired (c :: cs)

theorem Paired.append (hu : Paired u) (hv : Paired v) : Paired (u ++ v) := by
  induction hu with
  | nil =>
      exact hv
  | pair _ ih =>
      exact .pair ih
  | single hc _ ih =>
      exact .single hc ih
  | cons hc _ ih =>
      exact .cons hc ih

/-- After a pair, braces are paired as from the start. -/
theorem Paired.of_pair (h : Paired ('{' :: '{' :: cs)) : Paired cs := by
  cases h with
  | pair h =>
      exact h
  | single hc _ =>
      exact (hc rfl).elim
  | cons hc _ =>
      exact (hc rfl).elim

/-- After a character that begins no pair, braces are paired as from the start. -/
theorem Paired.tail (h : Paired (c :: cs))
    (hopen : ∀ tail, c = '{' → cs = '{' :: tail → False) : Paired cs := by
  cases h with
  | pair _ =>
      exact (hopen _ rfl rfl).elim
  | single _ h =>
      exact h
  | cons _ h =>
      exact h

/-- A character that begins no pair begins none if the text goes on. -/
theorem Paired.no_pair_append (h : Paired (c :: cs))
    (hopen : ∀ tail, c = '{' → cs = '{' :: tail → False) (rest : List Char) :
    ∀ tail, c = '{' → cs ++ rest = '{' :: tail → False := by
  rintro tail rfl happend
  cases h with
  | pair _ =>
      exact hopen _ rfl rfl
  | single hd _ =>
      exact hd (List.cons.inj happend).1
  | cons hc _ =>
      exact hc rfl

/-- No two equal braces stand side by side. -/
def Scattered (cs : List Char) : Prop :=
  cs.IsChain fun a b => a = b → isBrace a = false

/-- A text that stands before an opening brace without a pair of them has none to end with. -/
theorem Scattered.paired (h : Scattered (u ++ ['{'])) : Paired u := by
  induction u with
  | nil =>
      exact .nil
  | cons c u ih =>
      obtain ⟨hnext, hrest⟩ := List.isChain_cons.mp h
      by_cases hc : c = '{'
      · subst hc
        cases u with
        | nil =>
            have := hnext '{' (by simp) rfl
            simp [isBrace] at this
        | cons d u =>
            refine .single ?_ (ih hrest)
            rintro rfl
            have := hnext '{' (by simp) rfl
            simp [isBrace] at this
      · exact .cons hc (ih hrest)

end Braces

section Reading

/-- Before an opener, a text with paired braces is read as if it ended there. -/
theorem scanFrom_append_opener (hw : Paired w) (state : Option (List Char)) (rest : List Char) :
    scanFrom state (w ++ '{' :: '{' :: rest) = scanFrom state w ++ scanFrom (some []) rest := by
  -- Along the scan of the text: no pair is found in it that ends past its end.
  fun_induction scanFrom state w with
  | case1 cs ih =>
      exact ih hw.of_pair
  | case2 inner cs ih =>
      rw [List.append_assoc, ← ih hw.of_pair]
      rfl
  | case3 inner cs ih =>
      have hcs : Paired cs :=
        (hw.tail fun _ h => by cases h).tail fun _ h => by cases h
      have hblock : scanFrom (some inner) ('}' :: '}' :: (cs ++ '{' :: '{' :: rest)) =
          .block inner.reverse :: scanFrom none (cs ++ '{' :: '{' :: rest) := rfl
      exact hblock.trans (by rw [ih hcs]; rfl)
  | case4 c cs hopen ih =>
      have hopen' := hw.no_pair_append hopen ('{' :: '{' :: rest)
      rw [List.cons_append, List.cons_append, scanFrom.eq_4 c _ hopen', ih (hw.tail hopen)]
  | case5 inner c cs hopen hclose ih =>
      have hopen' := hw.no_pair_append hopen ('{' :: '{' :: rest)
      have hclose' : ∀ tail, c = '}' → cs ++ '{' :: '{' :: rest = '}' :: tail → False := by
        intro tail hc happend
        cases cs with
        | nil =>
            cases happend
        | cons d cs =>
            obtain ⟨rfl, _⟩ := List.cons.inj happend
            exact hclose cs hc rfl
      rw [List.cons_append, scanFrom.eq_5 inner c _ hopen' hclose', ih (hw.tail hopen)]
  | case6 =>
      rfl
  | case7 inner =>
      rfl

theorem Scattered.no_pair_append {brace : Char} (h : Scattered (c :: (u ++ [d])))
    (hbrace : isBrace brace = true) (rest : List Char) :
    ∀ tail, c = brace → u ++ d :: rest = brace :: tail → False := by
  rintro tail rfl happend
  have hnext : c ∈ (u ++ [d]).head? := by
    cases u <;> simp_all
  have hno := (List.isChain_cons.mp h).1 c hnext rfl
  rw [hbrace] at hno
  cases hno

/-- Inside a block, text without pairs becomes part of the block. -/
theorem scanFrom_some_append_scattered (h : Scattered (u ++ [d])) (inner rest : List Char) :
    scanFrom (some inner) (u ++ d :: rest) = scanFrom (some (u.reverse ++ inner)) (d :: rest) := by
  induction u generalizing inner with
  | nil =>
      rfl
  | cons c u ih =>
      have hopen := h.no_pair_append (by decide : isBrace '{' = true) rest
      have hclose := h.no_pair_append (by decide : isBrace '}' = true) rest
      rw [List.cons_append, scanFrom.eq_5 inner c _ hopen hclose, ih (List.isChain_cons.mp h).2]
      simp

/-- A block is read whatever text with paired braces stands before it, and so is the text before and
after it. -/
theorem scan_around_block (hw : Paired w) (hinner : Scattered (inner ++ ['}']))
    (rest : List Char) :
    scan (w ++ (Segment.block inner).text ++ rest) = scan w ++ .block inner :: scan rest := by
  have htext : w ++ (Segment.block inner).text ++ rest =
      w ++ '{' :: '{' :: (inner ++ '}' :: '}' :: rest) := by
    simp [Segment.text]
  have hclose : scanFrom (some inner.reverse) ('}' :: '}' :: rest) =
      .block inner :: scan rest := by
    simp [scanFrom, scan]
  calc
    scan (w ++ (Segment.block inner).text ++ rest)
        = scan w ++ scanFrom (some []) (inner ++ '}' :: '}' :: rest) := by
          rw [htext]
          exact scanFrom_append_opener hw none _
    _ = scan w ++ .block inner :: scan rest := by
        rw [scanFrom_some_append_scattered hinner, List.append_nil, hclose]

end Reading

section Spacing

/-- Before each block the braces of the text since the last one are paired, and in the block no two
equal braces stand side by side.  What was read since the last block is `w`. -/
def Spaced (w : List Char) : List Segment → Prop
  | [] => True
  | .char c :: rest => Spaced (w ++ [c]) rest
  | .block inner :: rest => Paired w ∧ Scattered (inner ++ ['}']) ∧ Spaced [] rest

theorem spaced_append_chars :
    Spaced w (cs.map .char ++ segments) ↔ Spaced (w ++ cs) segments := by
  induction cs generalizing w with
  | nil =>
      simp
  | cons c cs ih =>
      simpa [Spaced] using ih (w := w ++ [c])

/-- Text with paired braces before segments changes nothing. -/
theorem Spaced.append_left (hu : Paired u) (h : Spaced w segments) : Spaced (u ++ w) segments := by
  induction segments generalizing w with
  | nil =>
      trivial
  | cons s rest ih =>
      cases s with
      | char c =>
          have hrest : Spaced (u ++ (w ++ [c])) rest := ih h
          simpa [Spaced] using hrest
      | block inner =>
          obtain ⟨hw, hinner, hrest⟩ := h
          exact ⟨hu.append hw, hinner, hrest⟩

/-- What is known of a text while it is read: `w` was read since the last block, and an opener after
it if there is one; `cs` comes next. -/
def MidScan (w cs : List Char) : Option (List Char) → Prop
  | none => (cs.head? = some '{' → Paired w) ∧ ∀ c, c ≠ '{' → Paired (w ++ [c])
  | some inner => Paired w ∧ Scattered (inner.reverse ++ cs.head?.toList)

theorem midScan_nil (cs : List Char) : MidScan [] cs none :=
  ⟨fun _ => .nil, fun _ hc => .cons hc .nil⟩

theorem midScan_opener (hw : Paired w) (cs : List Char) : MidScan w cs (some []) := by
  refine ⟨hw, ?_⟩
  cases cs <;> simp [Scattered]

theorem MidScan.outside (h : MidScan w (c :: cs) none)
    (hopen : ∀ tail, c = '{' → cs = '{' :: tail → False) : MidScan (w ++ [c]) cs none := by
  obtain ⟨hbefore, hafter⟩ := h
  by_cases hc : c = '{'
  · subst hc
    refine ⟨?_, fun d hd => ?_⟩
    · intro hhead
      obtain ⟨tail, htail⟩ := List.head?_eq_some_iff.mp hhead
      exact (hopen tail rfl htail).elim
    · rw [List.append_assoc]
      exact (hbefore rfl).append (.single hd (.cons hd .nil))
  · exact ⟨fun _ => hafter c hc, fun d hd => (hafter c hc).append (.cons hd .nil)⟩

theorem MidScan.inside (h : MidScan w (c :: cs) (some inner))
    (hopen : ∀ tail, c = '{' → cs = '{' :: tail → False)
    (hclose : ∀ tail, c = '}' → cs = '}' :: tail → False) :
    MidScan w cs (some (c :: inner)) := by
  obtain ⟨hw, hinner⟩ := h
  refine ⟨hw, ?_⟩
  rw [List.reverse_cons]
  refine List.IsChain.append hinner (by cases cs <;> simp) ?_
  intro a ha b hb hab
  obtain rfl : c = a := by simpa using ha
  obtain ⟨tail, htail⟩ : ∃ tail, cs = c :: tail := by
    rw [← List.head?_eq_some_iff, hab]
    simpa using hb
  exact isBrace_eq_false_iff.mpr ⟨fun hc => hopen tail hc (hc ▸ htail),
    fun hc => hclose tail hc (hc ▸ htail)⟩

/-- What is read keeps the invariant, and each block is cut off where the invariant speaks of it. -/
theorem spaced_scanFrom (h : MidScan w cs state) : Spaced w (scanFrom state cs) := by
  fun_induction scanFrom state cs generalizing w with
  | case1 cs ih =>
      exact ih (midScan_opener (h.1 rfl) cs)
  | case2 inner cs ih =>
      obtain ⟨hw, hinner⟩ := h
      have hnext : Paired (w ++ '{' :: '{' :: inner.reverse) := hw.append (.pair hinner.paired)
      exact spaced_append_chars.mpr (ih (midScan_opener hnext cs))
  | case3 inner cs ih =>
      exact ⟨h.1, h.2, ih (midScan_nil cs)⟩
  | case4 c cs hopen ih =>
      exact ih (h.outside hopen)
  | case5 inner c cs hopen hclose ih =>
      exact ih (h.inside hopen hclose)
  | case6 =>
      trivial
  | case7 inner =>
      have hnil : Spaced (w ++ '{' :: '{' :: inner.reverse) [] := trivial
      simpa [unopened] using spaced_append_chars.mpr hnil

/-- Before each block of a text the braces are paired. -/
theorem spaced_scan (cs : List Char) : Spaced [] (scan cs) :=
  spaced_scanFrom (midScan_nil cs)

end Spacing

section Taking

/-- Media blocks take up room. -/
theorem length_withoutMedia_add_le (segments : List Segment) :
    (withoutMedia segments).length + (mediaArguments segments).length ≤
      (Segment.render segments).length := by
  induction segments with
  | nil =>
      simp [withoutMedia, mediaArguments]
  | cons s rest ih =>
      rw [render_cons, List.length_append]
      cases hs : mediaArgument? s with
      | none =>
          rw [withoutMedia_cons_of_other hs, mediaArguments_cons_of_other hs, List.length_append]
          omega
      | some argument =>
          have htext : 0 < s.text.length := by
            cases s <;> simp [Segment.text]
          rw [withoutMedia_cons_of_media hs, mediaArguments_cons_of_media hs, List.length_cons]
          omega

theorem withoutMedia_of_no_media (h : mediaArguments segments = []) :
    withoutMedia segments = Segment.render segments := by
  induction segments with
  | nil =>
      rfl
  | cons s rest ih =>
      cases hs : mediaArgument? s with
      | none =>
          rw [mediaArguments_cons_of_other hs] at h
          rw [withoutMedia_cons_of_other hs, ih h, render_cons]
      | some argument =>
          rw [mediaArguments_cons_of_media hs] at h
          cases h

end Taking

section Stretches

/-- The texts between the blocks of segments that stay, with the media blocks taken out.  The first
of them begins with `w`. -/
def stretchesFrom (w : List Char) : List Segment → List (List Char)
  | [] => [w]
  | .char c :: rest => stretchesFrom (w ++ [c]) rest
  | .block inner :: rest =>
    match mediaArgument? (.block inner) with
    | some _ => stretchesFrom w rest
    | none => w :: stretchesFrom [] rest

/-- The texts that meet where the media blocks were, from one block that stays to the next. -/
def stretches (segments : List Segment) : List (List Char) :=
  stretchesFrom [] segments

/-- Without its media blocks, a text is read stretch by stretch. -/
theorem mediaArguments_scan_append_withoutMedia (h : Spaced w segments) :
    mediaArguments (scan (w ++ withoutMedia segments)) =
      (stretchesFrom w segments).flatMap fun stretch => mediaArguments (scan stretch) := by
  induction segments generalizing w with
  | nil =>
      simp [withoutMedia, stretchesFrom]
  | cons s rest ih =>
      cases s with
      | char c =>
          have htext : w ++ withoutMedia (.char c :: rest) = w ++ [c] ++ withoutMedia rest := by
            rw [withoutMedia_cons_of_other rfl, List.append_assoc]
            rfl
          rw [htext]
          exact ih h
      | block inner =>
          obtain ⟨hw, hinner, hrest⟩ := h
          cases hs : mediaArgument? (.block inner) with
          | some argument =>
              have hmet : Spaced w rest := by
                simpa using hrest.append_left hw
              rw [withoutMedia_cons_of_media hs, ih hmet]
              simp [stretchesFrom, hs]
          | none =>
              have hnext := ih hrest
              rw [List.nil_append] at hnext
              rw [withoutMedia_cons_of_other hs, ← List.append_assoc, scan_around_block hw hinner,
                mediaArguments_append, mediaArguments_cons_of_other hs, hnext]
              simp [stretchesFrom, hs]

theorem mediaArguments_scan_withoutMedia (body : List Char) :
    mediaArguments (scan (withoutMedia (scan body))) =
      (stretches (scan body)).flatMap fun stretch => mediaArguments (scan stretch) := by
  simpa [stretches] using mediaArguments_scan_append_withoutMedia (spaced_scan body)

end Stretches

section Again

variable {names names' : List String} {body text : List Char}

/-- What a lifting gives, if it succeeds. -/
theorem eq_of_liftMedia (h : liftMedia names body = .ok (text, names')) :
    text = Text.trim (withoutMedia (scan body)) ∧
      names' = (references (scan body)).foldl addNew names := by
  have href : ∀ a ∈ mediaArguments (scan body), ∃ name, mediaName? a = some name := by
    intro a ha
    by_contra hnone
    have hnone : mediaName? a = none := by
      rw [Option.eq_none_iff_forall_ne_some]
      exact fun name hname => hnone ⟨name, hname⟩
    obtain ⟨fault, hfault⟩ := liftSegments_of_unreferenced ha hnone names
    simp [liftMedia, hfault, Except.map] at h
  simp only [liftMedia, liftSegments_of_references href, Except.map, Except.ok.injEq,
    Prod.mk.injEq] at h
  exact ⟨h.1.symm, h.2.symm⟩

/-- Lifting changes nothing in a trimmed text if there is no media block in it, and only then. -/
theorem liftMedia_eq_self_iff (htrim : Text.trim text = text) (names : List String) :
    liftMedia names text = .ok (text, names) ↔ mediaArguments (scan text) = [] := by
  constructor
  · intro h
    obtain ⟨htext, _⟩ := eq_of_liftMedia h
    have hle := length_withoutMedia_add_le (scan text)
    have htrimmed := Text.length_trim_le (withoutMedia (scan text))
    rw [render_scan] at hle
    rw [← htext] at htrimmed
    exact List.length_eq_zero_iff.mp (by omega)
  · intro h
    have href : ∀ a ∈ mediaArguments (scan text), ∃ name, mediaName? a = some name := by
      simp [h]
    rw [liftMedia, liftSegments_of_references href, withoutMedia_of_no_media h, render_scan]
    simp [Except.map, htrim, references, h]

/--
A lifting takes out the media blocks of the text as it is read once.  A second one finds nothing if
and only if no media block comes about where the texts around those meet: in a stretch of text
between two blocks that stay.
-/
theorem lift_again_iff (h : liftMedia names body = .ok (text, names')) (others : List String) :
    text = Text.trim (withoutMedia (scan body)) ∧
      names' = (references (scan body)).foldl addNew names ∧
      (liftMedia others text = .ok (text, others) ↔
        ∀ stretch ∈ stretches (scan body), mediaArguments (scan stretch) = []) := by
  obtain ⟨htext, hnames⟩ := eq_of_liftMedia h
  refine ⟨htext, hnames, ?_⟩
  have htrim : Text.trim text = text := by
    rw [htext, Text.trim_trim]
  have hmedia := mediaArguments_scan_trim (stable_scan (withoutMedia (scan body)))
  rw [render_scan, ← htext, mediaArguments_scan_withoutMedia] at hmedia
  rw [liftMedia_eq_self_iff htrim, hmedia, List.flatMap_eq_nil_iff]

/-- An opener that begins no block, with a media block and a placeholder after it. -/
def unclosedCaption : List Char :=
  "\x7b\x7b see \x7b\x7bmedia url=photo\x7d\x7d of \x7b\x7bname\x7d\x7d".toList

theorem lift_again_unclosedCaption :
    liftMedia [] unclosedCaption =
        .ok ("\x7b\x7b see  of \x7b\x7bname\x7d\x7d".toList, ["photo"]) ∧
      liftMedia ["photo"] "\x7b\x7b see  of \x7b\x7bname\x7d\x7d".toList =
        .ok ("\x7b\x7b see  of \x7b\x7bname\x7d\x7d".toList, ["photo"]) := by
  have h : liftMedia [] unclosedCaption =
      .ok ("\x7b\x7b see  of \x7b\x7bname\x7d\x7d".toList, ["photo"]) := by
    decide
  obtain ⟨_, _, hagain⟩ := lift_again_iff h ["photo"]
  exact ⟨h, hagain.mpr (by decide)⟩

/-- A media block in the middle of the keyword of what would be another one. -/
def nestedMedia : List Char :=
  "\x7b\x7bm\x7b\x7bmedia url=a\x7d\x7dedia url=b\x7d\x7d".toList

theorem media_of_lifted :
    sections ("\x7b\x7brole \"user\"\x7d\x7d".toList ++ nestedMedia) =
        .ok [⟨.user, nestedMedia⟩] ∧
      liftMedia [] nestedMedia = .ok ("\x7b\x7bmedia url=b\x7d\x7d".toList, ["a"]) ∧
      liftMedia ["a"] "\x7b\x7bmedia url=b\x7d\x7d".toList = .ok ([], ["a", "b"]) := by
  decide

end Again

end Legacy
end PromptBook
