import PromptBook.Proofs.Files.Names

/-!
# Following paths

A path is followed name by name, and each name does one of a few things: it stays in a directory, goes
outward, goes down to an entry, or jumps along a link.  To follow more names after a directory is
reached is to follow them from there.  So a name in a directory leads to the entry of that name in the
very directory that the path of the directory leads to.

**Results.**
* `walk_eq_ok_iff`: where names lead, step by step.
* `walk_append`: names are followed from where the names before them lead.
* `findFrom_join`: where the path of a name in a directory leads.
-/

namespace PromptBook
namespace Files
namespace Tree

variable {t : Tree} {follow : Bool} {links : Nat} {place there : Location} {name path dir : String}
variable {names rest : List String} {e : Entry} {found : Found}

section Steps

/-- A name that leads from a directory to one of its entries, if there is one. -/
structure GoesDown (t : Tree) (place : Location) (name : String) : Prop where
  directory : t.at? place = some .directory
  ne_dot : name ≠ "."
  ne_dots : name ≠ ".."
  short : name.utf8ByteSize ≤ 255

theorem walk_dot (h : t.at? place = some .directory) (rest : List String) :
    t.walk follow links place ("." :: rest) = t.walk follow links place rest := by
  rw [walk, h]
  simp

theorem walk_dots (h : t.at? place = some .directory) (rest : List String) :
    t.walk follow links place (".." :: rest) = t.walk follow links place.dropLast rest := by
  rw [walk, h]
  simp

theorem walk_long (h : t.at? place = some .directory) (hname : Path.IsComponent name)
    (hlong : 255 < name.utf8ByteSize) :
    t.walk follow links place (name :: rest) = .error .nameTooLong := by
  rw [walk, h]
  simp only [hname.ne_dot, hname.ne_dots, hlong, if_false, if_true]

theorem walk_missing (h : t.GoesDown place name) (hnone : t.at? (place ++ [name]) = none) :
    t.walk follow links place [name] = .ok (.missing place name) := by
  simp [walk, h.directory, h.ne_dot, h.ne_dots, Nat.not_lt.mpr h.short, hnone]

theorem walk_link (h : t.GoesDown place name) (hlink : t.at? (place ++ [name]) = some (.link path))
    (hfollow : rest = [] → follow = true) :
    t.walk follow (links + 1) place (name :: rest) =
      t.walk follow links (if Path.isAbsolute path then [] else place) (steps path ++ rest) := by
  have hon : ¬(rest.isEmpty = true ∧ (!follow) = true) := by
    rintro ⟨hrest, hno⟩
    rw [hfollow (List.isEmpty_iff.mp hrest)] at hno
    cases hno
  rw [walk, h.directory]
  simp only [h.ne_dot, h.ne_dots, Nat.not_lt.mpr h.short, if_false, hlink, hon]

theorem walk_down (h : t.GoesDown place name) (hat : t.at? (place ++ [name]) = some e)
    (hlink : ∀ path, e ≠ .link path) (rest : List String) :
    t.walk follow links place (name :: rest) = t.walk follow links (place ++ [name]) rest := by
  rw [walk, h.directory]
  simp only [h.ne_dot, h.ne_dots, Nat.not_lt.mpr h.short, if_false, hat]

/-- Where names lead from a place, one step after the other. -/
inductive Walks (t : Tree) (follow : Bool) : Nat → Location → List String → Found → Prop
  | here {links : Nat} {place : Location} {e : Entry} (hat : t.at? place = some e) :
      Walks t follow links place [] (.entry place e)
  | dot {links : Nat} {place : Location} {rest : List String} {found : Found}
      (hat : t.at? place = some .directory) (h : Walks t follow links place rest found) :
      Walks t follow links place ("." :: rest) found
  | dots {links : Nat} {place : Location} {rest : List String} {found : Found}
      (hat : t.at? place = some .directory) (h : Walks t follow links place.dropLast rest found) :
      Walks t follow links place (".." :: rest) found
  | missing {links : Nat} {place : Location} {name : String} (hdown : t.GoesDown place name)
      (hnone : t.at? (place ++ [name]) = none) :
      Walks t follow links place [name] (.missing place name)
  | stop {links : Nat} {place : Location} {name path : String} (hdown : t.GoesDown place name)
      (hat : t.at? (place ++ [name]) = some (.link path)) (hfollow : follow = false) :
      Walks t follow links place [name] (.entry (place ++ [name]) (.link path))
  | link {links : Nat} {place : Location} {name path : String} {rest : List String} {found : Found}
      (hdown : t.GoesDown place name) (hat : t.at? (place ++ [name]) = some (.link path))
      (hfollow : rest = [] → follow = true)
      (h : Walks t follow links (if Path.isAbsolute path then [] else place) (steps path ++ rest)
        found) :
      Walks t follow (links + 1) place (name :: rest) found
  | down {links : Nat} {place : Location} {name : String} {e : Entry} {rest : List String}
      {found : Found} (hdown : t.GoesDown place name) (hat : t.at? (place ++ [name]) = some e)
      (hlink : ∀ path, e ≠ .link path) (h : Walks t follow links (place ++ [name]) rest found) :
      Walks t follow links place (name :: rest) found

theorem Walks.walk_eq (h : t.Walks follow links place names found) :
    t.walk follow links place names = .ok found := by
  induction h with
  | here hat => rw [walk, hat]
  | dot hat _ ih => rw [walk_dot hat, ih]
  | dots hat _ ih => rw [walk_dots hat, ih]
  | missing hdown hnone => exact walk_missing hdown hnone
  | stop hdown hat hfollow =>
      simp [walk, hdown.directory, hdown.ne_dot, hdown.ne_dots, Nat.not_lt.mpr hdown.short, hat,
        hfollow]
  | link hdown hat hfollow _ ih => rw [walk_link hdown hat hfollow, ih]
  | down hdown hat hlink _ ih => rw [walk_down hdown hat hlink, ih]

theorem walks_of_walk_eq (h : t.walk follow links place names = .ok found) :
    t.Walks follow links place names found := by
  fun_induction walk t follow links place names with
  | case1 links place e hat =>
      cases h
      exact .here hat
  | case2 links place hat =>
      cases h
  | case3 links place rest hat ih =>
      exact .dot hat (ih h)
  | case4 links place rest hat hdot ih =>
      exact .dots hat (ih h)
  | case5 links place name rest hat hdot hdots hlong =>
      cases h
  | case6 links place name rest hat hdot hdots hshort there hnone hlast =>
      cases h
      obtain rfl := List.isEmpty_iff.mp hlast
      exact .missing ⟨hat, hdot, hdots, Nat.not_lt.mp hshort⟩ hnone
  | case7 links place name rest hat hdot hdots hshort there hnone hmore =>
      cases h
  | case8 links place name rest hat hdot hdots hshort there path hlink hstop =>
      cases h
      obtain rfl := List.isEmpty_iff.mp hstop.1
      exact .stop ⟨hat, hdot, hdots, Nat.not_lt.mp hshort⟩ hlink (by simpa using hstop.2)
  | case9 place name rest hat hdot hdots hshort there path hlink hon =>
      cases h
  | case10 place name rest hat hdot hdots hshort there path hlink hon links ih =>
      refine .link ⟨hat, hdot, hdots, Nat.not_lt.mp hshort⟩ hlink ?_ (ih h)
      rintro rfl
      simpa using hon
  | case11 links place name rest hat hdot hdots hshort there e hlink hthere ih =>
      exact .down ⟨hat, hdot, hdots, Nat.not_lt.mp hshort⟩ hthere hlink (ih h)
  | case12 links place name rest e hfile hat =>
      cases h
  | case13 links place name rest hat =>
      cases h

/-- Where names lead from a place. -/
theorem walk_eq_ok_iff :
    t.walk follow links place names = .ok found ↔ t.Walks follow links place names found :=
  ⟨walks_of_walk_eq, Walks.walk_eq⟩

end Steps

section Further

/-- Names are followed from where the names before them lead; some links are used up by then. -/
theorem Walks.walk_append (h : t.Walks true links place names (.entry there e)) :
    ∃ left, ∀ follow rest, rest ≠ [] →
      t.walk follow links place (names ++ rest) = t.walk follow left there rest := by
  generalize hfound : Found.entry there e = found at h
  induction h with
  | here hat =>
      cases hfound
      exact ⟨_, fun _ _ _ => rfl⟩
  | dot hat _ ih =>
      obtain ⟨left, hleft⟩ := ih hfound
      exact ⟨left, fun follow rest hrest => (walk_dot hat _).trans (hleft follow rest hrest)⟩
  | dots hat _ ih =>
      obtain ⟨left, hleft⟩ := ih hfound
      exact ⟨left, fun follow rest hrest => (walk_dots hat _).trans (hleft follow rest hrest)⟩
  | missing hdown hnone =>
      cases hfound
  | stop hdown hat hfollow =>
      cases hfollow
  | link hdown hat hfollow _ ih =>
      obtain ⟨left, hleft⟩ := ih hfound
      refine ⟨left, fun follow rest hrest => ?_⟩
      rw [List.cons_append, walk_link hdown hat (by simp [hrest]), ← List.append_assoc]
      exact hleft follow rest hrest
  | down hdown hat hlink _ ih =>
      obtain ⟨left, hleft⟩ := ih hfound
      exact ⟨left, fun follow rest hrest =>
        (walk_down hdown hat hlink _).trans (hleft follow rest hrest)⟩

/-- A dot at the end asks for a directory and leads nowhere else. -/
theorem Walks.of_append_dot (h : t.Walks true links place (names ++ ["."]) (.entry there e)) :
    t.Walks true links place names (.entry there e) := by
  generalize hall : names ++ ["."] = all at h
  generalize hfound : Found.entry there e = found at h
  induction h generalizing names with
  | here hat =>
      simp at hall
  | @dot links place rest found hat h ih =>
      cases names with
      | nil =>
          obtain rfl : [] = rest := by simpa using hall
          exact hfound ▸ h
      | cons name names =>
          obtain ⟨rfl, hrest⟩ := List.cons.inj hall
          exact .dot hat (ih hrest hfound)
  | @dots links place rest found hat h ih =>
      cases names with
      | nil =>
          exact absurd (List.cons.inj hall).1 (by decide)
      | cons name names =>
          obtain ⟨rfl, hrest⟩ := List.cons.inj hall
          exact .dots hat (ih hrest hfound)
  | missing hdown hnone =>
      cases hfound
  | stop hdown hat hfollow =>
      cases hfollow
  | @link links place name path rest found hdown hat hfollow h ih =>
      cases names with
      | nil =>
          exact (hdown.ne_dot (List.cons.inj hall).1.symm).elim
      | cons name names =>
          obtain ⟨rfl, rfl⟩ := List.cons.inj hall
          exact .link hdown hat (fun _ => rfl) (ih (List.append_assoc _ _ _) hfound)
  | @down links place name e rest found hdown hat hlink h ih =>
      cases names with
      | nil =>
          exact (hdown.ne_dot (List.cons.inj hall).1.symm).elim
      | cons name names =>
          obtain ⟨rfl, hrest⟩ := List.cons.inj hall
          exact .down hdown hat hlink (ih hrest hfound)

end Further

section Directories

/-- A path that is not too long to be followed, and that holds no character that ends names. -/
def MayFollow (path : String) : Prop :=
  Char.ofNat 0 ∉ path.toList ∧ path.utf8ByteSize < 4096

instance (path : String) : Decidable (MayFollow path) :=
  inferInstanceAs (Decidable (_ ∧ _))

theorem findFrom_of_mayFollow (hne : path ≠ "") (h : MayFollow path) (t : Tree) (follow : Bool) :
    t.findFrom follow path =
      t.walk follow mostLinks (if Path.isAbsolute path then [] else t.current) (steps path) := by
  have hclean : path.toList.contains (Char.ofNat 0) = false := by
    simpa using h.1
  have hthere : path.isEmpty = false := by
    simpa using hne
  rw [findFrom, hthere, hclean, if_neg Bool.false_ne_true, if_neg Bool.false_ne_true,
    if_neg (Nat.not_le.mpr h.2)]

theorem mayFollow_of_findFrom (h : t.findFrom follow path = .ok found) :
    path ≠ "" ∧ MayFollow path := by
  unfold findFrom at h
  split at h
  · cases h
  · rename_i hempty
    split at h
    · cases h
    · rename_i hclean
      split at h
      · cases h
      · rename_i hshort
        exact ⟨by simpa using hempty, by simpa using hclean, Nat.not_le.mp hshort⟩

theorem Walks.at? (h : t.Walks follow links place names (.entry there e)) : t.at? there = some e := by
  generalize hfound : Found.entry there e = found at h
  induction h with
  | here hat => cases hfound; exact hat
  | missing _ _ => cases hfound
  | stop _ hat _ => cases hfound; exact hat
  | dot _ _ ih => exact ih hfound
  | dots _ _ ih => exact ih hfound
  | link _ _ _ _ ih => exact ih hfound
  | down _ _ _ _ ih => exact ih hfound

/-- Where a path leads that is followed to its end. -/
theorem walks_of_find (h : t.find path = .ok (.entry there e)) :
    t.Walks true mostLinks (if Path.isAbsolute path then [] else t.current) (Path.components path)
      (.entry there e) := by
  obtain ⟨hne, hpath⟩ := mayFollow_of_findFrom h
  rw [find, findFrom_of_mayFollow hne hpath] at h
  have hwalks := walk_eq_ok_iff.mp h
  by_cases hslash : path.toList.getLast? = some '/'
  · rw [steps, if_pos hslash] at hwalks
    exact hwalks.of_append_dot
  · rw [steps, if_neg hslash, List.append_nil] at hwalks
    exact hwalks

/-- The path of a name in a directory leads to where the name leads from that directory. -/
theorem findFrom_join (hname : Path.IsComponent name)
    (hdir : t.find dir = .ok (.entry place .directory)) (hpath : MayFollow (Path.join dir name)) :
    ∃ left, ∀ follow,
      t.findFrom follow (Path.join dir name) = t.walk follow left place [name] := by
  obtain ⟨left, hleft⟩ := (walks_of_find hdir).walk_append
  refine ⟨left, fun follow => ?_⟩
  rw [findFrom_of_mayFollow (Path.join_ne_empty hname dir) hpath, Path.isAbsolute_join hname,
    Path.steps_join hname]
  exact hleft follow [name] (List.cons_ne_nil _ _)

theorem at?_of_find (hdir : t.find dir = .ok (.entry place e)) : t.at? place = some e :=
  (walks_of_find hdir).at?

end Directories

section Files

variable {content : Option String} {age : Nat}

/-- What can be read of a file: a matter of its path, its name and its content. -/
def textOf (path name : String) (content : Option String) : Except Failure String :=
  if Char.ofNat 0 ∈ path.toList then .error .badPath
  else if 4096 ≤ path.utf8ByteSize ∨ 255 < name.utf8ByteSize then .error .nameTooLong
  else content.elim (.error .notText) .ok

theorem findFrom_of_not_mayFollow (hne : path ≠ "") (h : ¬MayFollow path) (t : Tree)
    (follow : Bool) :
    t.findFrom follow path =
      .error (if Char.ofNat 0 ∈ path.toList then .badPath else .nameTooLong) := by
  have hthere : path.isEmpty = false := by
    simpa using hne
  rw [findFrom, hthere, if_neg Bool.false_ne_true]
  by_cases hclean : Char.ofNat 0 ∈ path.toList
  · have hcontains : path.toList.contains (Char.ofNat 0) = true := by
      simpa using hclean
    rw [if_pos hcontains, if_pos hclean]
  · have hcontains : ¬path.toList.contains (Char.ofNat 0) = true := by
      simpa using hclean
    have hlong : 4096 ≤ path.utf8ByteSize := Nat.not_lt.mp fun hshort => h ⟨hclean, hshort⟩
    rw [if_neg hcontains, if_neg hclean, if_pos hlong]

/-- What is read at the path of a file in a directory is what can be read of that file. -/
theorem readText_of_file (hname : Path.IsComponent name)
    (hdir : t.find dir = .ok (.entry place .directory))
    (hfile : t.at? (place ++ [name]) = some (.file content age)) :
    t.readText (Path.join dir name) = textOf (Path.join dir name) name content := by
  have hplace : t.at? place = some .directory := at?_of_find hdir
  have hne := Path.join_ne_empty hname dir
  by_cases hpath : MayFollow (Path.join dir name)
  · obtain ⟨left, hleft⟩ := findFrom_join hname hdir hpath
    rw [readText, find, hleft, textOf, if_neg hpath.1]
    by_cases hshort : name.utf8ByteSize ≤ 255
    · have hdown : t.GoesDown place name := ⟨hplace, hname.ne_dot, hname.ne_dots, hshort⟩
      rw [walk_down hdown hfile (by simp), walk, hfile, if_neg (by have := hpath.2; omega)]
      cases content <;> rfl
    · rw [walk_long hplace hname (Nat.not_le.mp hshort), if_pos (.inr (Nat.not_le.mp hshort))]
      rfl
  · rw [readText, find, findFrom_of_not_mayFollow hne hpath, textOf]
    by_cases hclean : Char.ofNat 0 ∈ (Path.join dir name).toList
    · rw [if_pos hclean, if_pos hclean]
      rfl
    · have hlong : 4096 ≤ (Path.join dir name).utf8ByteSize :=
        Nat.not_lt.mp fun hshort => hpath ⟨hclean, hshort⟩
      rw [if_neg hclean, if_neg hclean, if_pos (.inl hlong)]
      rfl

theorem exists_of_isFile (h : t.isFile path = true) :
    ∃ there content age, t.find path = .ok (.entry there (.file content age)) := by
  unfold isFile entry? at h
  cases hfind : t.find path with
  | error e =>
      rw [hfind] at h
      cases h
  | ok found =>
      rw [hfind] at h
      cases found with
      | missing directory name => cases h
      | entry there e =>
          cases e with
          | file content age => exact ⟨there, content, age, rfl⟩
          | link path => cases h
          | directory => cases h

/-- Where there is a file for a name in a directory, the name is that of an entry of the very
directory: a file, or a link that leads to one. -/
theorem exists_entry_of_isFile (hname : Path.IsComponent name)
    (hdir : t.find dir = .ok (.entry place .directory))
    (hfile : t.isFile (Path.join dir name) = true) :
    ∃ e, t.findItself (Path.join dir name) = .ok (.entry (place ++ [name]) e) := by
  obtain ⟨there, content, age, hfind⟩ := exists_of_isFile hfile
  obtain ⟨left, hleft⟩ := findFrom_join hname hdir (mayFollow_of_findFrom hfind).2
  rw [find, hleft] at hfind
  rw [findItself, hleft]
  cases walk_eq_ok_iff.mp hfind with
  | dot _ _ => exact absurd rfl hname.ne_dot
  | dots _ _ => exact absurd rfl hname.ne_dots
  | link hdown hat _ _ => exact ⟨_, walk_eq_ok_iff.mpr (.stop hdown hat rfl)⟩
  | down hdown hat hlink _ => exact ⟨_, walk_eq_ok_iff.mpr (.down hdown hat hlink (.here hat))⟩

end Files

end Tree
end Files
end PromptBook
