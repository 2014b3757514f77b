import PromptBook.Document.Json
import PromptBook.Document.Variant
import PromptBook.Proofs.Json.Reordering
import PromptBook.Proofs.Number.Exactness
import PromptBook.Template.Codec

/-!
# Reading what was written

A reader gives what was written if it gives it in whatever order the members of the objects stand.
That is said here of every reader of plain values and lists, and of records: a record whose members
fit its fields is read, and every field then finds the value that was written for it, or none.

**Results.**
* `Reads`: a reader gives what was written.
* `reads_list`, `reads_dictionary`: lists and mappings.
* `reads_record`: records.
* `required_of`, `withDefault_of`, `optional_of`: the fields of a record.
-/

namespace PromptBook
namespace Document

open Dictionary (lookup_of_mem lookup_of_not_mem)
open Json (Rearrangement SameName)
open Itemwise (exists_left exists_right)

/-- Of every value that `S` relates to `x`, which differs from it in the order of members at most, a
reader gives something with a property. -/
def Reads {β : Type} (S : Json → Json → Prop) (read : Json → Decoded β) (x : Json) (P : β → Prop) :
    Prop :=
  ∀ y, S x y → ∃ b, read y = .ok b ∧ P b

variable {S : Json → Json → Prop} {A B : Type} {read : Json → Decoded B}

section Values

theorem reads_string (hS : Rearrangement S) (s : String) : Reads S string (.string s) (Eq s) := by
  intro y hy
  obtain rfl := hS.plain rfl hy
  exact ⟨s, rfl, rfl⟩

theorem reads_texts? (hS : Rearrangement S) {s? : Option String} :
    ∀ s, s? = some s → Json.string s ≠ .null ∧ Reads S string (.string s) (Eq s) :=
  fun s _ => ⟨nofun, reads_string hS s⟩

theorem reads_boolean (hS : Rearrangement S) (b : Bool) : Reads S boolean (.bool b) (Eq b) := by
  intro y hy
  obtain rfl := hS.plain rfl hy
  exact ⟨b, rfl, rfl⟩

theorem reads_word32 (hS : Rearrangement S) {n : Nat} (hn : n < 2 ^ 32) :
    Reads S word32 (Json.nat n) (Eq n) := by
  intro y hy
  obtain rfl := hS.plain rfl hy
  exact ⟨n, if_pos hn, rfl⟩

/-- A number of single precision is read as it is. -/
theorem reads_single (hS : Rearrangement S) {x : Number.Binary} (hx : Number.single.Holds x) :
    Reads S single (.number (.single x)) (Eq x) := by
  intro y hy
  obtain rfl := hS.plain rfl hy
  exact ⟨_, rfl, (Number.Format.convert_of_holds hx).symm⟩

theorem reads_json (x : Json) : Reads S json x (S x) :=
  fun y hy => ⟨y, rfl, hy⟩

theorem isNull_of_ne (hS : Rearrangement S) {x y : Json} (hx : x ≠ .null) (hy : S x y) :
    isNull y = .ok false := by
  cases x with
  | null => exact absurd rfl hx
  | bool _ | number _ | string _ =>
      obtain rfl := hS.plain rfl hy
      rfl
  | array items =>
      obtain ⟨_, rfl, _⟩ := hS.array hy
      rfl
  | object members =>
      obtain ⟨_, _, rfl, _⟩ := hS.object hy
      rfl

/-- A value that is not null, where there may be none. -/
theorem reads_optional (hS : Rearrangement S) {x : Json} {P : B → Prop} (hx : x ≠ .null)
    (h : Reads S read x P) : Reads S (optional read) x fun b? => ∃ b, b? = some b ∧ P b := by
  intro y hy
  obtain ⟨b, hread, hb⟩ := h y hy
  refine ⟨some b, ?_, b, rfl, hb⟩
  rw [optional, isNull_of_ne hS hx hy]
  simp [bind, Except.bind, hread, Except.map]

end Values

section Lists

variable {write : A → Json} {R : A → B → Prop}

theorem itemsFrom_of_reads {as : List A} (h : ∀ a ∈ as, Reads S read (write a) (R a))
    {ys : List Json} (hys : List.Forall₂ S (as.map write) ys) (index : Nat) :
    ∃ bs, itemsFrom read index ys = .ok bs ∧ List.Forall₂ R as bs := by
  induction as generalizing ys index with
  | nil =>
      cases hys
      exact ⟨[], rfl, .nil⟩
  | cons a rest ih =>
      cases hys with
      | @cons _ y _ ys hy hrest =>
          obtain ⟨ha, hothers⟩ := List.forall_mem_cons.mp h
          obtain ⟨b, hread, hb⟩ := ha y hy
          obtain ⟨bs, hitems, hbs⟩ := ih hothers hrest (index + 1)
          refine ⟨b :: bs, ?_, .cons hb hbs⟩
          simp [itemsFrom, hread, inside, hitems, bind, Except.bind]

/-- A list is read item by item. -/
theorem reads_list (hS : Rearrangement S) {as : List A}
    (h : ∀ a ∈ as, Reads S read (write a) (R a)) :
    Reads S (list read) (.array (as.map write)) (List.Forall₂ R as) := by
  intro y hy
  obtain ⟨ys, rfl, hys⟩ := hS.array hy
  exact itemsFrom_of_reads h hys 0

/-- A list of which every item is read as it was written. -/
theorem reads_list_eq (hS : Rearrangement S) {bs : List B} {write : B → Json}
    (h : ∀ b ∈ bs, Reads S read (write b) (Eq b)) :
    Reads S (list read) (.array (bs.map write)) (Eq bs) := by
  intro y hy
  obtain ⟨bs', hread, hbs⟩ := reads_list hS h y hy
  rw [List.forall₂_eq_eq_eq] at hbs
  exact ⟨bs', hread, hbs⟩

theorem reads_texts (hS : Rearrangement S) (texts : List String) :
    Reads S (list string) (Json.texts texts) (Eq texts) :=
  reads_list_eq hS fun s _ => reads_string hS s

end Lists

section Mappings

theorem entriesOf_members (members : List (String × Json)) :
    entriesOf (members.map fun m => (Json.string m.1, m.2)) = .ok members := by
  induction members with
  | nil => rfl
  | cons m rest ih =>
      rw [List.map_cons, entriesOf, ih]
      rfl

theorem names_of_same {members members' : List (String × Json)}
    (h : List.Forall₂ (SameName S) members members') :
    members.map Prod.fst = members'.map Prod.fst := by
  induction h with
  | nil => rfl
  | cons hm _ ih => rw [List.map_cons, List.map_cons, hm.1, ih]

/-- A mapping is read in the order of its names. -/
theorem reads_dictionary (hS : Rearrangement S) {d : Dictionary Json} (hd : d.Ordered) :
    Reads S dictionary (.object d) (List.Forall₂ (SameName S) d) := by
  intro y hy
  obtain ⟨between, members, rfl, hsame, hperm⟩ := hS.object hy
  have hordered : Dictionary.Ordered between := by
    rw [Dictionary.Ordered, ← List.pairwise_map (R := (· < ·)), ← names_of_same hsame,
      List.pairwise_map]
    exact hd
  refine ⟨between, ?_, hsame⟩
  show (entriesOf (members.map fun m => (Json.string m.1, m.2))).map Dictionary.ofEntries = _
  rw [entriesOf_members, Except.map, ← Dictionary.ofEntries_perm hordered.nodup_names hperm,
    hordered.ofEntries_eq]

end Mappings

section Records

variable {fields : List (FieldReader Json)} {entries : List (String × Option Json)}
variable {members : List (String × Json)} {name : String}

/-- A value that was written under a name, if one was, fits a field of that name. -/
def Fits (S : Json → Json → Prop) (field : FieldReader Json) (entry : String × Option Json) : Prop :=
  field.1 = entry.1 ∧
    ∀ x, entry.2 = some x → ∀ y, S x y → field.2 (.member entry.1) y = .ok ()

theorem Fits.of_reads {x : Json} {P : B → Prop} (h : Reads S read x P) :
    Fits S (field name read) (name, some x) := by
  refine ⟨rfl, ?_⟩
  intro x' hx' y hy
  cases hx'
  obtain ⟨b, hread, _⟩ := h y hy
  simp [field, hread, Except.map, inside]

theorem Fits.of_each {x? : Option Json} {P : Json → B → Prop}
    (h : ∀ x, x? = some x → Reads S read x (P x)) : Fits S (field name read) (name, x?) := by
  cases x? with
  | none => exact ⟨rfl, nofun⟩
  | some x => exact .of_reads (h x rfl)

/-- A value that may be missing, but is not null. -/
theorem Fits.of_optional (hS : Rearrangement S) {a? : Option A} {write : A → Json} {R : A → B → Prop}
    (h : ∀ a, a? = some a → write a ≠ .null ∧ Reads S read (write a) (R a)) :
    Fits S (field name (optional read)) (name, a?.map write) := by
  cases a? with
  | none => exact ⟨rfl, nofun⟩
  | some a => exact .of_reads (reads_optional hS (h a rfl).1 (h a rfl).2)

theorem names_of_fits (h : List.Forall₂ (Fits S) fields entries) :
    fields.map Prod.fst = entries.map Prod.fst := by
  induction h with
  | nil => rfl
  | cons hfits _ ih => rw [List.map_cons, List.map_cons, hfits.1, ih]

/-- Members of different names that fit their fields pass the first reading. -/
theorem checkMembers_of_fits {closed : Bool}
    (hfits : ∀ m ∈ members, ∃ check, fields.lookup m.1 = some check ∧
      check (.member m.1) m.2 = .ok ())
    (hnames : (members.map Prod.fst).Nodup) {seen : List String}
    (hseen : ∀ m ∈ members, m.1 ∉ seen) :
    checkMembers closed fields seen (members.map fun m => (Json.string m.1, m.2)) = .ok () := by
  -- Only the names of the members that are left may not have been seen, so those seen so far vary.
  induction members generalizing seen with
  | nil => rfl
  | cons m rest ih =>
      obtain ⟨hm, hrest⟩ := List.forall_mem_cons.mp hfits
      obtain ⟨hfirst, hothers⟩ := List.forall_mem_cons.mp hseen
      obtain ⟨hname, hdistinct⟩ := List.nodup_cons.mp hnames
      obtain ⟨check, hlookup, hcheck⟩ := hm
      have hnew : ∀ m' ∈ rest, m'.1 ∉ m.1 :: seen := by
        intro m' hm' hmem
        rcases List.mem_cons.mp hmem with heq | hold
        · exact hname (heq ▸ List.mem_map.mpr ⟨m', hm', rfl⟩)
        · exact hothers m' hm' hold
      have hcontains : seen.contains m.1 = false := by
        simpa using hfirst
      have htext : text? (Json.string m.1) = some m.1 := rfl
      have hstep : stepTo (Json.string m.1) m.1 = .member m.1 := rfl
      rw [List.map_cons, checkMembers]
      simp only [htext, hlookup, hcontains, hstep, hcheck, Bool.false_eq_true, if_false]
      exact ih hrest hdistinct hnew

/-- The members that are written. -/
def written (entries : List (String × Option Json)) : List (String × Json) :=
  entries.filterMap fun (name, value?) => value?.map (name, ·)

theorem mem_written_iff {x : Json} : (name, x) ∈ written entries ↔ (name, some x) ∈ entries := by
  rw [written, List.mem_filterMap]
  constructor
  · rintro ⟨⟨key, value?⟩, hentry, hvalue⟩
    cases value? with
    | none => cases hvalue
    | some value =>
        cases hvalue
        exact hentry
  · intro hentry
    exact ⟨_, hentry, rfl⟩

theorem names_written (entries : List (String × Option Json)) :
    ((written entries).map Prod.fst).Sublist (entries.map Prod.fst) := by
  induction entries with
  | nil => exact .slnil
  | cons entry rest ih =>
      obtain ⟨name, value?⟩ := entry
      cases value? with
      | none => exact ih.cons name
      | some value => exact ih.cons_cons name

/-- A name without a value is not written. -/
theorem not_mem_written (hnames : (entries.map Prod.fst).Nodup) (h : (name, none) ∈ entries) :
    name ∉ (written entries).map Prod.fst := by
  rintro hmem
  obtain ⟨⟨_, x⟩, hx, rfl⟩ := List.mem_map.mp hmem
  have hsome := lookup_of_mem hnames (mem_written_iff.mp hx)
  have hnone := lookup_of_mem hnames h
  rw [hsome] at hnone
  cases hnone

/-- A value that was written fits the field of its name. -/
theorem exists_check (hnames : (entries.map Prod.fst).Nodup)
    (hfits : List.Forall₂ (Fits S) fields entries) {x y : Json} (hx : (name, some x) ∈ entries)
    (hy : S x y) :
    ∃ check, fields.lookup name = some check ∧ check (.member name) y = .ok () := by
  obtain ⟨⟨key, check⟩, hfield, hname, hcheck⟩ := exists_left hfits hx
  obtain rfl : key = name := hname
  exact ⟨check, lookup_of_mem (names_of_fits hfits ▸ hnames) hfield, hcheck x rfl y hy⟩

/-- A record whose values fit its fields is read, and has under every name what was written there. -/
theorem reads_record (hS : Rearrangement S) (what : String) (closed : Bool)
    (hfields : (fields.map Prod.fst).Nodup) (hfits : List.Forall₂ (Fits S) fields entries) :
    Reads S (record what closed fields) (Json.ofFields entries) fun r =>
      ∀ entry ∈ entries, Option.Rel S entry.2 (r.members.lookup entry.1) := by
  intro y hy
  have hnames : (entries.map Prod.fst).Nodup := names_of_fits hfits ▸ hfields
  have hobject : S (.object (written entries)) y := hy
  obtain ⟨between, members, rfl, hsame, hperm⟩ := hS.object hobject
  have hwritten : ((written entries).map Prod.fst).Perm (members.map Prod.fst) := by
    rw [names_of_same hsame]
    exact hperm.map Prod.fst
  have hdistinct : (members.map Prod.fst).Nodup :=
    hwritten.nodup_iff.mp (hnames.sublist (names_written entries))
  have hcheck : ∀ m ∈ members, ∃ check, fields.lookup m.1 = some check ∧
      check (.member m.1) m.2 = .ok () := by
    rintro ⟨name, y⟩ hm
    obtain ⟨⟨_, x⟩, hx, rfl, hxy⟩ := exists_left hsame (hperm.mem_iff.mpr hm)
    exact exists_check hnames hfits (mem_written_iff.mp hx) hxy
  have hmembers : (members.map fun m => (Json.string m.1, m.2)).filterMap
      (fun (key, v) => (text? key).map (·, v)) = members := by
    rw [List.filterMap_map]
    exact List.filterMap_some
  refine ⟨⟨members, .missingField⟩, ?_, ?_⟩
  · show ofMembers closed fields (members.map fun m => (Json.string m.1, m.2)) = _
    rw [ofMembers, checkMembers_of_fits hcheck hdistinct fun _ _ => List.not_mem_nil, hmembers]
    rfl
  · rintro ⟨name, x?⟩ hentry
    cases x? with
    | none =>
        have hno : name ∉ members.map Prod.fst := fun hmem =>
          not_mem_written hnames hentry (hwritten.mem_iff.mpr hmem)
        rw [lookup_of_not_mem hno]
        exact .none
    | some x =>
        obtain ⟨⟨_, y⟩, hy, rfl, hxy⟩ := exists_right hsame (mem_written_iff.mpr hentry)
        rw [lookup_of_mem hdistinct (hperm.mem_iff.mp hy)]
        exact .some hxy

end Records

section Fields

variable {r : Record Json} {name : String} {x : Json} {P : B → Prop}

theorem required_of (hthere : Option.Rel S (some x) (r.members.lookup name))
    (h : Reads S read x P) : ∃ b, r.required name read = .ok b ∧ P b := by
  unfold Record.required
  generalize r.members.lookup name = found at hthere
  cases hthere with
  | some hy =>
      obtain ⟨b, hread, hb⟩ := h _ hy
      exact ⟨b, by simp [hread, inside], hb⟩

theorem required_eq {b : B} (hthere : Option.Rel S (some x) (r.members.lookup name))
    (h : Reads S read x (Eq b)) : r.required name read = .ok b := by
  obtain ⟨_, hread, rfl⟩ := required_of hthere h
  exact hread

theorem withDefault_of {default : B} (hthere : Option.Rel S (some x) (r.members.lookup name))
    (h : Reads S read x P) : ∃ b, r.withDefault name default read = .ok b ∧ P b := by
  unfold Record.withDefault
  generalize r.members.lookup name = found at hthere
  cases hthere with
  | some hy =>
      obtain ⟨b, hread, hb⟩ := h _ hy
      exact ⟨b, by simp [hread, inside], hb⟩

theorem withDefault_eq {b default : B} (hthere : Option.Rel S (some x) (r.members.lookup name))
    (h : Reads S read x (Eq b)) : r.withDefault name default read = .ok b := by
  obtain ⟨_, hread, rfl⟩ := withDefault_of hthere h
  exact hread

/-- A field that was not written has the value that stands for it. -/
theorem withDefault_of_none {default : B} (hthere : Option.Rel S none (r.members.lookup name)) :
    r.withDefault name default read = .ok default := by
  unfold Record.withDefault
  generalize r.members.lookup name = found at hthere
  cases hthere
  rfl

theorem optional_of (hS : Rearrangement S) {a? : Option A} {write : A → Json} {R : A → B → Prop}
    (hthere : Option.Rel S (a?.map write) (r.members.lookup name))
    (h : ∀ a, a? = some a → write a ≠ .null ∧ Reads S read (write a) (R a)) :
    ∃ b?, r.optional name read = .ok b? ∧ Option.Rel R a? b? := by
  cases a? with
  | none => exact ⟨none, withDefault_of_none hthere, .none⟩
  | some a =>
      obtain ⟨hnull, hread⟩ := h a rfl
      obtain ⟨_, hoptional, b, rfl, hb⟩ := withDefault_of hthere (reads_optional hS hnull hread)
      exact ⟨some b, hoptional, .some hb⟩

theorem optional_eq (hS : Rearrangement S) {b? : Option B} {write : B → Json}
    (hthere : Option.Rel S (b?.map write) (r.members.lookup name))
    (h : ∀ b, b? = some b → write b ≠ .null ∧ Reads S read (write b) (Eq b)) :
    r.optional name read = .ok b? := by
  obtain ⟨_, hread, hrel⟩ := optional_of hS hthere h
  cases hrel with
  | none => exact hread
  | some heq => exact heq ▸ hread

end Fields

end Document
end PromptBook
