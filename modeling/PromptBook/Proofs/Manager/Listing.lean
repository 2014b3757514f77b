import PromptBook.Proofs.Engine.Messages
import PromptBook.Proofs.Manager.CacheTransparency
import PromptBook.Proofs.Manager.Directory
import PromptBook.Proofs.Manager.Forgetting

/-!
# Templates that are listed

A listing takes whatever files have one of the extensions, and lists the templates in them under
their own names.  To load a template by name takes the first extension with which there is a file
that is called so.  The two meet if the template has the name of its file, its extension is written
as it was asked for, and no extension before it leads to another file.

**Results.**
* `mem_offered_of_listed`: what is listed was offered.
* `load_new_eq_ok_iff`: what a new manager loads.
* `listed_loadsByName`: which of the listed templates can be loaded by their names.
* `listed_not_found`: a document that states a name.
-/

namespace PromptBook

open Files (Tree)
open Template (SameButClock)

namespace Manager

variable {m : Manager} {now now' : Timestamp} {files : Tree} {t : Template} {name file : String}

section Listed

theorem mem_of_mem_beforeOthers {u : Template} {ts : List Template}
    (h : t ∈ beforeOthers u ts) : t = u ∨ t ∈ ts := by
  cases ts with
  | nil =>
      exact .inl (List.mem_singleton.mp h)
  | cons first rest =>
      rw [beforeOthers] at h
      split at h
      · exact (List.mem_cons.mp h).imp_right (List.mem_cons_of_mem _)
      · exact List.mem_cons.mp h

theorem mem_of_mem_foldr_beforeOthers {ts : List Template}
    (h : t ∈ ts.foldr beforeOthers []) : t ∈ ts := by
  induction ts with
  | nil =>
      exact h
  | cons first rest ih =>
      rcases mem_of_mem_beforeOthers h with rfl | hrest
      · exact List.mem_cons_self
      · exact List.mem_cons_of_mem _ (ih hrest)

/-- What is listed is kept. -/
theorem mem_values_of_mem_templates (h : t ∈ m.templates) : t ∈ m.registry.values :=
  List.mem_mergeSort.mp (mem_of_mem_foldr_beforeOthers h)

/-- What a manager lists that kept nothing was offered by its directory. -/
theorem mem_offered_of_listed (hempty : m.registry = []) (hlisted : m.listed = false)
    {ts : List Template} (hlist : (m.list now files).1 = .ok ts) (ht : t ∈ ts) :
    t ∈ m.offered now files := by
  rw [list_of_usable hlisted (usable_of_list hlisted hlist), Except.ok.injEq] at hlist
  subst hlist
  obtain ⟨entry, hentry, rfl⟩ := List.mem_map.mp (mem_values_of_mem_templates ht)
  rcases Dictionary.mem_addAll Template.name hentry with hbefore | ⟨u, hu, rfl⟩
  · have hnone : entry ∈ m.registry := hbefore
    rw [hempty] at hnone
    cases hnone
  · exact hu

end Listed

section New

variable {config : ManagerConfig} {backend : Backend}

/-- A new manager finds nothing in its cache, and reads the file for a name. -/
theorem load_new (config : ManagerConfig) (backend : Backend) (now : Timestamp) (files : Tree)
    (name : String) :
    (Manager.new config backend).load now files name =
      ((Manager.new config backend).askCache name).2.read now files name := by
  obtain ⟨hfound, hregistry, _⟩ := askCache_spec (CacheWithin.new config backend) name
  refine load_of_unknown ?_ (hregistry ▸ rfl)
  cases hask : ((Manager.new config backend).askCache name).1 with
  | none => rfl
  | some t => cases hfound t hask

theorem read_eq_ok_iff :
    (m.read now files name).1 = .ok t ↔
      m.loader.readNamed now files m.config.promptsDir name = .ok t ∧ m.check t = .ok () := by
  cases hread : m.loader.readNamed now files m.config.promptsDir name with
  | error e =>
      simp [read_of_unreadable hread]
  | ok u =>
      cases hcheck : m.check u with
      | error e =>
          rw [read_of_rejected hread hcheck]
          simp only [reduceCtorEq, Except.ok.injEq, false_iff, not_and]
          rintro rfl
          simp [hcheck]
      | ok _ =>
          rw [read_of_accepted hread hcheck]
          constructor
          · rintro ⟨⟩
            exact ⟨rfl, hcheck⟩
          · rintro ⟨⟨⟩, _⟩
            rfl

/-- A new manager loads what it can read and check. -/
theorem load_new_eq_ok_iff :
    ((Manager.new config backend).load now files name).1 = .ok t ↔
      (Manager.new config backend).loader.readNamed now files config.promptsDir name = .ok t ∧
        (Manager.new config backend).check t = .ok () := by
  rw [load_new, read_eq_ok_iff, askCache_snd]
  rfl

theorem load_new_of_unreadable {e : TemplateError}
    (hread : (Manager.new config backend).loader.readNamed now files config.promptsDir name =
      .error e) :
    ((Manager.new config backend).load now files name).1 = .error (.prompt e) := by
  rw [load_new, askCache_snd]
  exact congrArg Prod.fst (read_of_unreadable (m := (Manager.new config backend).mapCache _) hread)

end New

/-- At any time, the template is found by its name, and a request for it gets as far as the engine. -/
def LoadsByName (m : Manager) (now : Timestamp) (files : Tree) (t : Template) : Prop :=
  ∀ now', ∃ t', SameButClock now now' t t' ∧ (m.load now' files t.name).1 = .ok t' ∧
    ∀ values o, (m.render now' files t.name values o).1 = m.engine.render now' t' values o

theorem engine_load (m : Manager) (now : Timestamp) (files : Tree) (name : String) :
    (m.load now files name).2.engine = m.engine := by
  show (m.load now files name).2.forgotten.engine = m.forgotten.engine
  rw [forgotten_load]

theorem config_load (m : Manager) (now : Timestamp) (files : Tree) (name : String) :
    (m.load now files name).2.config = m.config := by
  show (m.load now files name).2.forgotten.config = m.forgotten.config
  rw [forgotten_load]

/-- A template that passes the check is found by its name exactly if the file for that name holds
it. -/
theorem loadsByName_iff {config : ManagerConfig} {backend : Backend}
    (hcheck : (Manager.new config backend).check t = .ok ()) :
    (Manager.new config backend).LoadsByName now files t ↔
      ∃ path, (Manager.new config backend).loader.find? files config.promptsDir t.name = some path ∧
        Loader.readAt now files path = .ok t := by
  constructor
  · intro hloads
    -- At the time of the listing, what is loaded is the template itself.
    obtain ⟨t', hsame, hload, _⟩ := hloads now
    obtain rfl := hsame.eq
    exact Loader.readNamed_eq_ok_iff.mp (load_new_eq_ok_iff.mp hload).1
  · rintro ⟨path, hfind, hread⟩ now'
    have hsame := Loader.readAt_sameReading now now' files path
    rw [hread] at hsame
    obtain ⟨t', hread', ht'⟩ := hsame.of_ok
    have hload : ((Manager.new config backend).load now' files t.name).1 = .ok t' :=
      load_new_eq_ok_iff.mpr ⟨Loader.readNamed_eq_ok_iff.mpr ⟨path, hfind, hread'⟩,
        check_sameButClock ht' ▸ hcheck⟩
    refine ⟨t', ht', hload, fun values o => ?_⟩
    rw [render_of_loaded hload, engine_load]

/--
A template that a new manager lists is read from a file of the directory with one of the extensions.
It is found by its name if it has the name of such a file and no other file comes before that one;
and in general exactly if the file for its name holds it.
-/
theorem listed_loadsByName (config : ManagerConfig) (backend : Backend) (files : Tree)
    (now : Timestamp) {ts : List Template} {t : Template}
    (hlist : ((Manager.new config backend).list now files).1 = .ok ts) (ht : t ∈ ts) :
    let m := Manager.new config backend
    (∃ file content age, (file, .file content age) ∈ files.list config.promptsDir ∧
        m.loader.accepts file = true ∧
        Loader.readAt now files (Path.join config.promptsDir file) = .ok t) ∧
      (∀ file, Loader.readAt now files (Path.join config.promptsDir file) = .ok t →
        m.loader.Reaches files config.promptsDir t.name file → m.LoadsByName now files t) ∧
      (m.LoadsByName now files t ↔
        ∃ path, m.loader.find? files config.promptsDir t.name = some path ∧
          Loader.readAt now files path = .ok t) := by
  intro m
  obtain ⟨file, content, age, hfile, haccepts, hread, hcheck⟩ :=
    mem_offered_iff.mp (mem_offered_of_listed rfl rfl hlist ht)
  refine ⟨⟨file, content, age, hfile, haccepts, hread⟩, ?_, loadsByName_iff hcheck⟩
  intro file hread hreaches
  exact (loadsByName_iff hcheck).mpr
    ⟨_, Loader.find?_of_reaches hreaches (Loader.isFile_of_readAt hread), hread⟩

section Letters

open Source (userDocument)

/-- A folder with one document. -/
def letters (text : String) : Tree :=
  .folder [("letter.prompt", some text)]

def lettersConfig : ManagerConfig :=
  ⟨"p", ["prompt", "yaml"], true, 4, true, false, true, none⟩

/-- A document that states a name. -/
def titledLetter : String :=
  "\x7b\x7brole \"config\"\x7d\x7dname: greeting\n\x7b\x7brole \"user\"\x7d\x7dHi"

theorem readAt_letters {text : String}
    (hread : Source.read .epoch "p/letter.prompt" (some "letter") text = .ok t) :
    Loader.readAt .epoch (letters text) (Path.join "p" "letter.prompt") = .ok t := by
  rw [letters, Loader.readAt_folder (by decide) rfl]
  exact hread

theorem readNamed_letters {text : String}
    (hread : Source.read .epoch "p/letter.prompt" (some "letter") text = .ok t) :
    (Loader.new ["prompt", "yaml"]).readNamed .epoch (letters text) "p" "letter" = .ok t := by
  have hletter := readAt_letters hread
  have hreaches : (Loader.new ["prompt", "yaml"]).Reaches (letters text) "p" "letter"
      "letter.prompt" :=
    ⟨by decide, [], "prompt", ["yaml"], by decide, by decide, by simp⟩
  exact Loader.readNamed_eq_ok_iff.mpr
    ⟨_, Loader.find?_of_reaches hreaches (Loader.isFile_of_readAt hletter), hletter⟩

/-- A manager of the folder loads the template of the document by the name of its file. -/
theorem load_letters {text : String} (backend : Backend)
    (hread : Source.read .epoch "p/letter.prompt" (some "letter") text = .ok t)
    (hcheck : (Manager.new lettersConfig backend).check t = .ok ()) :
    (Manager.new lettersConfig backend).load .epoch (letters text) "letter" =
      (.ok t, { Manager.new lettersConfig backend with
        registry := [("letter", t)]
        cache := some ⟨4, [("letter", t)], 0, 1⟩
        metrics := ⟨0, 0, 0, 0, 1⟩ }) := by
  rw [load_new, askCache_snd,
    read_of_accepted (m := (Manager.new lettersConfig backend).mapCache _)
      (readNamed_letters hread) hcheck]
  rfl

/-- A manager of the folder lists the template of the document. -/
theorem list_letters {text : String}
    (hread : Source.read .epoch "p/letter.prompt" (some "letter") text = .ok t)
    (hcheck : (Manager.new lettersConfig .stalling).check t = .ok ()) :
    ((Manager.new lettersConfig .stalling).list .epoch (letters text)).1 = .ok [t] := by
  have haccepts : (Manager.new lettersConfig .stalling).loader.accepts "letter.prompt" = true := by
    decide
  have hoffered : (Manager.new lettersConfig .stalling).offered .epoch (letters text) = [t] := by
    have hletter := readAt_letters hread
    rw [letters] at hletter ⊢
    rw [offered_folder rfl (List.pairwise_singleton _ _)]
    simp [haccepts, hletter, Except.toOption, hcheck, Except.isOk, Except.toBool]
  rw [list_of_usable rfl (usable_of_lenient rfl), hoffered]
  simp [templates, addAbsent, counted, countParsed, new, Dictionary.putIfAbsent, Dictionary.has,
    Dictionary.put, Dictionary.values, beforeOthers]

theorem listed_loadsByName_letter :
    ((Manager.new lettersConfig .stalling).list .epoch (letters (userDocument "Hi"))).1 =
        .ok [Template.ofParts "letter" [.user "Hi"] none] ∧
      (Manager.new lettersConfig .stalling).LoadsByName .epoch (letters (userDocument "Hi"))
        (Template.ofParts "letter" [.user "Hi"] none) := by
  have hread : Source.read .epoch "p/letter.prompt" (some "letter") (userDocument "Hi") =
      .ok (Template.ofParts "letter" [.user "Hi"] none) := rfl
  have hlist := list_letters hread (check_of_lenient rfl (by decide))
  refine ⟨hlist, ?_⟩
  apply (listed_loadsByName lettersConfig .stalling _ .epoch hlist (List.mem_singleton.mpr rfl)).2.1
    "letter.prompt" (readAt_letters hread)
  exact ⟨by decide, [], "prompt", ["yaml"], by decide, by decide, by simp⟩

/-- A document that states a name is listed under that name, and not found by it. -/
theorem listed_not_found :
    let m := Manager.new lettersConfig .stalling
    let greeting := Template.ofParts "greeting" [.system "name: greeting", .user "Hi"] none
    (m.list .epoch (letters titledLetter)).1 = .ok [greeting] ∧
      (m.load .epoch (letters titledLetter) greeting.name).1 =
        .error (.prompt (.notFound "greeting")) := by
  intro m greeting
  refine ⟨list_letters rfl (check_of_lenient rfl (by decide)), ?_⟩
  have hprompt : (letters titledLetter).isFile (Path.join "p" "greeting.prompt") = false :=
    Tree.isFile_join (by decide)
  have hyaml : (letters titledLetter).isFile (Path.join "p" "greeting.yaml") = false :=
    Tree.isFile_join (by decide)
  have hfind : m.loader.find? (letters titledLetter) "p" "greeting" = none := by
    have hplain : Path.isPlainName "greeting" = true := by
      decide
    have hextensions : m.loader.extensions = ["prompt", "yaml"] := by
      decide
    simp [Loader.find?, hplain, hextensions, hprompt, hyaml]
  apply load_new_of_unreadable
  show m.loader.readNamed .epoch (letters titledLetter) "p" "greeting" = _
  rw [Loader.readNamed, hfind]

end Letters

end Manager

end PromptBook
