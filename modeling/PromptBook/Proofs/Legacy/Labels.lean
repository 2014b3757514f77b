import PromptBook.Legacy.Section
import PromptBook.Proofs.Text.Casing
import PromptBook.Proofs.Text.Slugs

/-!
# Names from labelled lines

A document that states no name is named by the first line of its system sections that has a label, a
colon and a value with a letter or digit in it, and no opening braces.  The name is the slug of the
value.

**Results.**
* `labelled?_eq_some_iff`: the name in a line.
* `labelledName?_eq_some_iff`: the name in the lines of the system sections.
* `slugs_name_documents`: what a slug is, and which slug the name is.
-/

namespace PromptBook
namespace Legacy

open Text (RunsOf SameButCase isAlphanumeric lower slug)

variable {line value : List Char} {name : String} {ss : List Section}

/-- The line is a label, in letters of either case, then a colon and a value, which has no opening
braces. -/
def LabelledWith (line value : List Char) : Prop :=
  ∃ before after, line = before ++ ':' :: after ∧ ':' ∉ before ∧
    (∃ label ∈ nameLabels, SameButCase (Text.trim before) label.toList) ∧
    value = Text.unquote (Text.trim after) ∧ ¬['{', '{'] <:+: value

/-- The lines of the system sections, in order. -/
def systemLines (ss : List Section) : List (List Char) :=
  (ss.filter (·.role = .system)).flatMap (Text.lines ·.body)

/-- Labels have no letters that become others in lower case. -/
theorem asciiLower_nameLabels :
    ∀ label ∈ nameLabels, Text.asciiLower label.toList = label.toList := by
  decide

theorem any_nameLabels_iff {label : List Char} :
    nameLabels.any (·.toList = Text.asciiLower label) = true ↔
      ∃ l ∈ nameLabels, SameButCase label l.toList := by
  rw [List.any_eq_true]
  refine exists_congr fun l => and_congr_right fun hl => ?_
  rw [decide_eq_true_iff, Text.sameButCase_iff, asciiLower_nameLabels l hl, eq_comm]

/-- A labelled line gives the slug of its value, unless that is empty. -/
theorem labelled?_eq_some_iff {named : List Char} :
    labelled? line = some named ↔
      ∃ value, LabelledWith line value ∧ slug value = named ∧ named ≠ [] := by
  constructor
  · intro h
    obtain ⟨⟨before, after⟩, hsplit, hnamed⟩ := Option.bind_eq_some_iff.mp h
    obtain ⟨rfl, hbefore⟩ := Text.splitOnce_eq_some_iff.mp hsplit
    obtain ⟨⟨hlabel, hbraces, hne⟩, hslug⟩ := Option.ite_none_right_eq_some.mp hnamed
    obtain rfl := Option.some.inj hslug
    refine ⟨_, ⟨before, after, rfl, hbefore, any_nameLabels_iff.mp hlabel, rfl, ?_⟩, rfl, hne⟩
    rwa [← Text.occursIn_iff]
  · rintro ⟨value, ⟨before, after, rfl, hbefore, hlabel, rfl, hbraces⟩, rfl, hne⟩
    have hsplit : Text.splitOnce ':' (before ++ ':' :: after) = some (before, after) :=
      Text.splitOnce_eq_some_iff.mpr ⟨rfl, hbefore⟩
    rw [← Text.occursIn_iff] at hbraces
    refine Option.bind_eq_some_iff.mpr ⟨(before, after), hsplit, ?_⟩
    exact if_pos ⟨any_nameLabels_iff.mpr hlabel, hbraces, hne⟩

/-- A label may be written in capitals. -/
example : labelled? " TITLE: Daily Report".toList = some "daily_report".toList := by
  decide +kernel

theorem labelled?_eq_none_iff :
    labelled? line = none ↔ ∀ value, LabelledWith line value → slug value = [] := by
  rw [Option.eq_none_iff_forall_ne_some]
  constructor
  · intro h value hvalue
    by_contra hne
    exact h (slug value) (labelled?_eq_some_iff.mpr ⟨value, hvalue, rfl, hne⟩)
  · rintro h named hnamed
    obtain ⟨value, hvalue, rfl, hne⟩ := labelled?_eq_some_iff.mp hnamed
    exact hne (h value hvalue)

theorem labelledName?_eq_some_iff :
    labelledName? ss = some name ↔
      ∃ earlier line later value, systemLines ss = earlier ++ line :: later ∧
        LabelledWith line value ∧ name.toList = slug value ∧ slug value ≠ [] ∧
        ∀ other ∈ earlier, ∀ v, LabelledWith other v → slug v = [] := by
  constructor
  · intro h
    obtain ⟨named, hfirst, rfl⟩ := Option.map_eq_some_iff.mp h
    obtain ⟨earlier, line, later, hlines, hnamed, hearlier⟩ :=
      List.findSome?_eq_some_iff.mp hfirst
    obtain ⟨value, hvalue, rfl, hne⟩ := labelled?_eq_some_iff.mp hnamed
    exact ⟨earlier, line, later, value, hlines, hvalue, String.toList_ofList, hne,
      fun other hother => labelled?_eq_none_iff.mp (hearlier other hother)⟩
  · rintro ⟨earlier, line, later, value, hlines, hvalue, hname, hne, hearlier⟩
    refine Option.map_eq_some_iff.mpr ⟨slug value, ?_, ?_⟩
    · refine List.findSome?_eq_some_iff.mpr ⟨earlier, line, later, hlines, ?_, ?_⟩
      · exact labelled?_eq_some_iff.mpr ⟨value, hvalue, rfl, hne⟩
      · exact fun other hother => labelled?_eq_none_iff.mpr (hearlier other hother)
    · rw [← hname, String.ofList_toList]

/--
The slug of a text is its runs of letters and digits, in lower case character by character, with one
underscore between two of them.  So it neither begins nor ends with an underscore, has no two side
by side, and is empty only if the text has no letter or digit.  The name that a document takes from
its system sections is the slug of the value in the first labelled line whose value has a slug that
is not empty.
-/
theorem slugs_name_documents (cs : List Char) (ss : List Section) (name : String) :
    (∃ runs, (∀ rs, RunsOf isAlphanumeric cs rs ↔ rs = runs) ∧
        slug cs = ['_'].intercalate (runs.map (·.flatMap lower))) ∧
      ((slug cs).head? ≠ some '_' ∧ (slug cs).getLast? ≠ some '_' ∧ ¬['_', '_'] <:+: slug cs) ∧
      (slug cs = [] ↔ ∀ c ∈ cs, isAlphanumeric c = false) ∧
      (labelledName? ss = some name ↔
        ∃ earlier line later value, systemLines ss = earlier ++ line :: later ∧
          LabelledWith line value ∧ name.toList = slug value ∧ slug value ≠ [] ∧
          ∀ other ∈ earlier, ∀ v, LabelledWith other v → slug v = []) := by
  have hparted := Text.parted_slug cs
  refine ⟨⟨_, fun rs => Text.runsOf_iff, ?_⟩, ⟨hparted.first, hparted.last, hparted.not_adjacent⟩,
    Text.slug_eq_nil_iff, labelledName?_eq_some_iff⟩
  exact Text.slug_of_runsOf (Text.runsOf_iff.mpr rfl)

end Legacy
end PromptBook
