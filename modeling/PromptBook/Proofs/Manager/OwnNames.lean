import PromptBook.Proofs.Manager.Admission
import PromptBook.Proofs.Manager.Listing

/-!
# Templates under their own names

A listing shows the templates that are kept by the names they have, not by those under which they
are kept.  The two differ for a document that states a name: to load it by the name of its file
keeps it under that.  Of several templates with one name the listing shows the one that it comes to
first, so whether a look-up of the name finds what was listed may depend on the way in which the
templates are walked.

**Results.**
* `mem_listing_of_first`: what is walked first is listed.
* `settled_iff`: when a look-up finds what is listed, however the templates are walked.
* `ownNames_run`: runs that load no template by a name that is not its own.
* `listed_under_own_name_iff`: what can be seen of a listing in any state.
* `listed_without_name`: a document that is listed under a name under which nothing is kept.
-/

namespace PromptBook

open Files (Tree)

namespace Manager

variable {m : Manager} {name : String} {t u : Template} {ts walk : List Template}

section Walks

/-- What is listed of templates that are walked in some order: each name once, in the order of the
names. -/
def listing (walk : List Template) : List Template :=
  (walk.mergeSort fun a b => a.name ≤ b.name).foldr beforeOthers []

theorem templates_eq_listing (m : Manager) : m.templates = listing m.registry.values := rfl

theorem mem_of_mem_listing (h : t ∈ listing walk) : t ∈ walk :=
  List.mem_mergeSort.mp (mem_of_mem_foldr_beforeOthers h)

theorem mem_beforeOthers_self (t : Template) (ts : List Template) : t ∈ beforeOthers t ts := by
  cases ts with
  | nil =>
      exact List.mem_cons_self
  | cons first rest =>
      rw [beforeOthers]
      split <;> exact List.mem_cons_self

/-- A template takes the place of one with its own name only. -/
theorem mem_beforeOthers_of_ne (hne : u.name ≠ t.name) (h : t ∈ ts) : t ∈ beforeOthers u ts := by
  cases ts with
  | nil =>
      cases h
  | cons first rest =>
      rw [beforeOthers]
      split
      · rename_i hname
        rcases List.mem_cons.mp h with rfl | hrest
        · exact absurd hname hne
        · exact List.mem_cons_of_mem _ hrest
      · exact List.mem_cons_of_mem _ h

/-- A template after others with other names is not left out. -/
theorem mem_foldr_beforeOthers (ts : List Template) (h : ∀ u ∈ ts, u.name ≠ t.name)
    (rest : List Template) : t ∈ (ts ++ t :: rest).foldr beforeOthers [] := by
  induction ts with
  | nil =>
      exact mem_beforeOthers_self _ _
  | cons u ts ih =>
      obtain ⟨hu, hts⟩ := List.forall_mem_cons.mp h
      exact mem_beforeOthers_of_ne hu (ih hts)

/-- What is walked first is listed. -/
theorem mem_listing_of_first (t : Template) (rest : List Template) : t ∈ listing (t :: rest) := by
  have htrans : ∀ a b c : Template, decide (a.name ≤ b.name) → decide (b.name ≤ c.name) →
      decide (a.name ≤ c.name) := by
    simpa using fun a b c : Template => le_trans (a := a.name)
  have htotal : ∀ a b : Template, decide (a.name ≤ b.name) || decide (b.name ≤ a.name) := by
    simpa using fun a b : Template => le_total a.name b.name
  -- Sorting keeps templates of one name in the order of the walk.
  obtain ⟨before, after, hsorted, _, hbefore⟩ := List.mergeSort_cons htrans htotal t rest
  have hothers : ∀ u ∈ before, u.name ≠ t.name := by
    intro u hu heq
    simpa [heq] using hbefore u hu
  rw [listing, hsorted]
  exact mem_foldr_beforeOthers before hothers after

end Walks

section Names

/-- Of the templates that are kept, only the one under a name has that name. -/
def Settled (m : Manager) (name : String) : Prop :=
  ∀ key t, m.get? key = some t → t.name = name → m.get? name = some t

/-- Every template is kept under its own name. -/
def OwnNames (m : Manager) : Prop :=
  ∀ key t, m.get? key = some t → t.name = key

theorem OwnNames.settled (h : m.OwnNames) (name : String) : m.Settled name := by
  rintro key t hkept rfl
  rwa [h key t hkept]

theorem mem_values_iff (hordered : m.registry.Ordered) :
    t ∈ m.registry.values ↔ ∃ key, m.get? key = some t := by
  constructor
  · intro ht
    obtain ⟨⟨key, u⟩, hentry, rfl⟩ := List.mem_map.mp ht
    exact ⟨key, hordered.get?_eq_some_iff.mpr hentry⟩
  · rintro ⟨key, hkept⟩
    exact List.mem_map.mpr ⟨(key, t), hordered.get?_eq_some_iff.mp hkept, rfl⟩

/-- A look-up of a name finds what is listed under it, however the templates are walked, exactly if
no other template has the name. -/
theorem settled_iff (hordered : m.registry.Ordered) :
    m.Settled name ↔
      ∀ walk : List Template, walk.Perm m.registry.values →
        ∀ t ∈ listing walk, t.name = name → m.get? name = some t := by
  constructor
  · intro hsettled walk hwalk t ht hname
    obtain ⟨key, hkept⟩ := (mem_values_iff hordered).mp (hwalk.mem_iff.mp (mem_of_mem_listing ht))
    exact hsettled key t hkept hname
  · intro hlisted key t hkept hname
    -- A walk that comes to the template before all others lists it.
    obtain ⟨before, after, hvalues⟩ :=
      List.append_of_mem ((mem_values_iff hordered).mpr ⟨key, hkept⟩)
    refine hlisted (t :: (before ++ after)) ?_ t (mem_listing_of_first _ _) hname
    rw [hvalues]
    exact List.perm_middle.symm

end Names

section Listed

variable {now : Timestamp} {files : Tree}

theorem eq_templates_of_list (h : (m.list now files).1 = .ok ts) :
    ts = (m.list now files).2.templates := by
  cases hlisted : m.listed with
  | true =>
      rw [list_of_listed hlisted] at h ⊢
      exact (Except.ok.inj h).symm
  | false =>
      have husable := usable_of_list hlisted h
      rw [list_of_usable hlisted husable] at h ⊢
      exact (Except.ok.inj h).symm

/-- To list a folder without files changes no template. -/
theorem list_empty_folder (hdir : m.config.promptsDir = "p") (hstrict : m.config.strict = false)
    (hlisted : m.listed = false) (now : Timestamp) :
    (m.list now (.folder [])).1 = .ok m.templates ∧
      (m.list now (.folder [])).2.registry = m.registry := by
  have hoffered : m.offered now (.folder []) = [] := by
    rw [offered_folder hdir .nil]
    rfl
  rw [list_of_usable hlisted (usable_of_lenient hstrict), hoffered]
  exact ⟨rfl, rfl⟩

end Listed

end Manager

namespace World

open Manager (listing Settled OwnNames CacheWithin)

variable {w : World} {s : Step} {name : String} {t : Template}

/-- Everything that a run loads has the name by which it is loaded. -/
def LoadsOwnNames : World → List Step → Prop
  | _, [] => True
  | w, s :: rest =>
    (∀ name t, s.operation.needs? = some name →
        (w.manager.load s.now w.files name).1 = .ok t → t.name = name) ∧
      LoadsOwnNames (w.step s).2 rest

/-- At any time, whoever looks up the name of the template or loads it gets the template. -/
def Finds (w : World) (t : Template) : Prop :=
  ∀ now, (w.step ⟨now, .get t.name⟩).1 = .kept (some t) ∧
    (w.step ⟨now, .load t.name⟩).1 = .template (.ok t)

theorem finds_iff (h : w.manager.CacheWithin) : w.Finds t ↔ w.manager.get? t.name = some t := by
  constructor
  · intro hfinds
    exact Outcome.kept.inj (hfinds .epoch).1
  · intro hkept now
    exact ⟨congrArg Outcome.kept hkept, congrArg Outcome.template (Manager.load_of_kept h hkept).1⟩

theorem ownNames_step (h : w.manager.OwnNames)
    (hload : ∀ name t, s.operation.needs? = some name →
      (w.manager.load s.now w.files name).1 = .ok t → t.name = name) :
    (w.step s).2.manager.OwnNames := by
  intro key t hkept
  rcases admitted_step hkept with hbefore | hown | ⟨hneeds, hloaded⟩
  · exact h key t hbefore
  · exact hown
  · exact hload key t hneeds hloaded

theorem ownNames_run (h : w.manager.OwnNames) {steps : List Step} (hsteps : w.LoadsOwnNames steps) :
    (w.run steps).manager.OwnNames := by
  induction steps generalizing w with
  | nil => exact h
  | cons s rest ih =>
      obtain ⟨hfirst, hrest⟩ := hsteps
      exact ih (ownNames_step h hfirst) hrest

/--
A listing in any state shows templates that are kept, and a look-up or a load of its name finds each
of them whose name no other template has that is kept.  Without that condition, this depends on the
way in which the templates are walked.  The condition is met by all templates if everything that was
loaded had the name by which it was loaded.
-/
theorem listed_under_own_name_iff (config : ManagerConfig) (backend : Backend) (files : Tree)
    (past : List Step) (now : Timestamp) {ts : List Template}
    (hlist : ((run ⟨.new config backend, files⟩ past).step ⟨now, .list⟩).1 = .templates (.ok ts)) :
    let w := ((run ⟨.new config backend, files⟩ past).step ⟨now, .list⟩).2
    ts = listing w.manager.registry.values ∧
      (∀ t ∈ ts, (∃ key, w.manager.get? key = some t) ∧ (w.manager.Settled t.name → w.Finds t)) ∧
      (∀ name, w.manager.Settled name ↔
        ∀ walk : List Template, walk.Perm w.manager.registry.values →
          ∀ t ∈ listing walk, t.name = name → w.Finds t) ∧
      (LoadsOwnNames ⟨.new config backend, files⟩ past → ∀ t ∈ ts, w.Finds t) := by
  intro w
  have hwithin : w.manager.CacheWithin :=
    (step_mirrored (cacheWithin_run (CacheWithin.new config backend) past) ⟨now, .list⟩).within
  have hordered : w.manager.registry.Ordered := ordered_step (ordered_run .nil past) ⟨now, .list⟩
  have hts : ts = listing w.manager.registry.values :=
    (Manager.eq_templates_of_list (Outcome.templates.inj hlist)).trans
      (Manager.templates_eq_listing w.manager)
  have hkept : ∀ t ∈ ts, ∃ key, w.manager.get? key = some t := by
    intro t ht
    exact (Manager.mem_values_iff hordered).mp (Manager.mem_of_mem_listing (hts ▸ ht))
  have hfinds : ∀ t ∈ ts, w.manager.Settled t.name → w.Finds t := by
    intro t ht hsettled
    obtain ⟨key, hkey⟩ := hkept t ht
    exact (finds_iff hwithin).mpr (hsettled key t hkey rfl)
  refine ⟨hts, fun t ht => ⟨hkept t ht, hfinds t ht⟩, ?_, ?_⟩
  · intro name
    rw [Manager.settled_iff hordered]
    constructor
    · rintro hall walk hwalk t ht rfl
      exact (finds_iff hwithin).mpr (hall walk hwalk t ht rfl)
    · rintro hall walk hwalk t ht rfl
      exact (finds_iff hwithin).mp (hall walk hwalk t ht rfl)
  · intro hloads t ht
    have hnew : (Manager.new config backend).OwnNames := by
      rintro key t ⟨⟩
    have hown : w.manager.OwnNames := by
      refine ownNames_step (ownNames_run hnew hloads) ?_
      rintro name t ⟨⟩
    exact hfinds t ht (hown.settled t.name)

section Letters

open Manager (letters lettersConfig titledLetter)

/-- The template of a letter that states the name of a greeting. -/
def greeting : Template :=
  .ofParts "greeting" [.system "name: greeting", .user "Hi"] none

/-- The letter is loaded by the name of its file, and the file is taken away. -/
def takingLetter : List Step :=
  [⟨.epoch, .load "letter"⟩, ⟨.epoch, .change fun _ => .folder []⟩]

/-- A world without files, and with the letter kept under the name that its file had. -/
def lettersTaken : World :=
  run ⟨.new lettersConfig .stalling, letters titledLetter⟩ takingLetter

theorem lettersTaken_manager :
    lettersTaken.manager.config = lettersConfig ∧ lettersTaken.manager.listed = false ∧
      lettersTaken.manager.registry = [("letter", greeting)] := by
  have hmanager : lettersTaken.manager =
      ((Manager.new lettersConfig .stalling).load .epoch (letters titledLetter) "letter").2 := rfl
  rw [hmanager, Manager.load_letters (t := greeting) .stalling rfl
    (Manager.check_of_lenient rfl (by decide))]
  exact ⟨rfl, rfl, rfl⟩

/-- Another template, which nobody loads from a file. -/
def reminder : Template :=
  .ofParts "reminder" [.user "Hi"] none

theorem listed_under_own_name_reminder :
    let w := run ⟨.new lettersConfig .stalling, letters titledLetter⟩
      (takingLetter ++ [⟨.epoch, .register reminder⟩])
    (w.step ⟨.epoch, .list⟩).1 = .templates (.ok [greeting, reminder]) ∧
      (w.step ⟨.epoch, .list⟩).2.Finds reminder := by
  intro w
  obtain ⟨hconfig, hlisted, hregistry⟩ := lettersTaken_manager
  have hcheck : lettersTaken.manager.check reminder = .ok () :=
    Manager.check_of_lenient (congrArg ManagerConfig.strict hconfig) (by decide)
  have hmanager : w.manager = (lettersTaken.manager.register reminder).2 := rfl
  rw [Manager.register_of_accepted hcheck] at hmanager
  have hboth : w.manager.registry = [("letter", greeting), ("reminder", reminder)] := by
    rw [hmanager]
    show lettersTaken.manager.registry.put "reminder" reminder = _
    rw [hregistry]
    rfl
  have htemplates : w.manager.templates = [greeting, reminder] := by
    rw [Manager.templates, hboth, List.mergeSort_of_pairwise (by decide)]
    rfl
  have hconfig' : w.manager.config = lettersConfig := by
    rw [hmanager]
    exact hconfig
  have hlisted' : w.manager.listed = false := by
    rw [hmanager]
    exact hlisted
  obtain ⟨hlist, hkept⟩ := Manager.list_empty_folder (congrArg ManagerConfig.promptsDir hconfig')
    (congrArg ManagerConfig.strict hconfig') hlisted' .epoch
  have hresult : (w.step ⟨.epoch, .list⟩).1 = .templates (.ok [greeting, reminder]) :=
    congrArg Outcome.templates (hlist.trans (congrArg Except.ok htemplates))
  refine ⟨hresult, ?_⟩
  obtain ⟨_, hfinds, _⟩ := listed_under_own_name_iff lettersConfig .stalling _ _ .epoch hresult
  refine (hfinds reminder (by simp)).2 ?_
  intro key t hkey hname
  have hafter : ∀ key, (w.step ⟨.epoch, .list⟩).2.manager.get? key =
      Dictionary.get? [("letter", greeting), ("reminder", reminder)] key := by
    intro key
    rw [← hboth, ← hkept]
    rfl
  rw [hafter, Dictionary.get?, Dictionary.get?, Dictionary.get?] at hkey
  rw [hafter]
  split at hkey
  · obtain rfl := Option.some.inj hkey
    exact absurd hname (by decide)
  · split at hkey
    · obtain rfl := Option.some.inj hkey
      rfl
    · cases hkey

/-- The letter is still listed, but nothing is kept under the name that it states. -/
theorem listed_without_name :
    (lettersTaken.step ⟨.epoch, .list⟩).1 = .templates (.ok [greeting]) ∧
      ((lettersTaken.step ⟨.epoch, .list⟩).2.step ⟨.epoch, .get greeting.name⟩).1 = .kept none := by
  obtain ⟨hconfig, hlisted, hregistry⟩ := lettersTaken_manager
  obtain ⟨hlist, hkept⟩ := Manager.list_empty_folder (congrArg ManagerConfig.promptsDir hconfig)
    (congrArg ManagerConfig.strict hconfig) hlisted .epoch
  have htemplates : lettersTaken.manager.templates = [greeting] := by
    rw [Manager.templates, hregistry]
    simp [Dictionary.values, Manager.beforeOthers]
  refine ⟨congrArg Outcome.templates (hlist.trans (congrArg Except.ok htemplates)), ?_⟩
  refine congrArg Outcome.kept ?_
  show (lettersTaken.manager.list .epoch (.folder [])).2.registry.get? "greeting" = none
  rw [hkept, hregistry]
  decide

end Letters

end World

end PromptBook
