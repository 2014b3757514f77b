import PromptBook.Proofs.Dictionary.Puts
import PromptBook.Proofs.Manager.Staying

/-!
# How templates come to be kept

A step puts templates among those that are kept, or it forgets all of them first.  Each comes under
its own name, except for one that was asked for by another: what a load finds in the file for a name
is kept under that name, whatever the document says.

**Results.**
* `puts_step`: what a step does to the templates that are kept.
* `ordered_run`: they are in order at any time.
* `admitted_step`: what is kept after a step was kept before or is admitted by it.
-/

namespace PromptBook

open Files (Tree)
open Dictionary (Ordered Puts)

namespace Manager

variable {m : Manager} {now : Timestamp} {files : Tree} {name : String} {t : Template}

/-- Only the template that the load of a name gives is kept under that name. -/
theorem puts_load (m : Manager) (now : Timestamp) (files : Tree) (name : String) :
    Puts (fun key u => key = name ∧ (m.load now files name).1 = .ok u)
      m.registry (m.load now files name).2.registry := by
  have hasked : (m.askCache name).2.registry = m.registry := by
    rw [askCache_snd]
    rfl
  cases hask : (m.askCache name).1 with
  | some t =>
      rw [load_of_cached hask, hasked]
      exact .none
  | none =>
      cases hkept : (m.askCache name).2.registry.get? name with
      | some t =>
          rw [load_of_registered hask hkept, ← hasked]
          exact .none
      | none =>
          rw [load_of_unknown hask hkept, ← hasked]
          generalize (m.askCache name).2 = asked
          cases hread : asked.loader.readNamed now files asked.config.promptsDir name with
          | error e =>
              rw [read_of_unreadable hread]
              exact .none
          | ok t =>
              cases hcheck : asked.check t with
              | error e =>
                  rw [read_of_rejected hread hcheck]
                  exact .none
              | ok _ =>
                  rw [read_of_accepted hread hcheck]
                  exact Puts.none.put ⟨rfl, rfl⟩

theorem puts_register (m : Manager) (t : Template) :
    Puts (fun key u => u.name = key) m.registry (m.register t).2.registry := by
  cases hcheck : m.check t with
  | error e =>
      rw [register_of_rejected hcheck]
      exact .none
  | ok _ =>
      rw [register_of_accepted hcheck]
      exact Puts.none.put rfl

theorem puts_list (m : Manager) (now : Timestamp) (files : Tree) :
    Puts (fun key u => u.name = key) m.registry (m.list now files).2.registry := by
  cases hlisted : m.listed with
  | true =>
      rw [list_of_listed hlisted]
      exact .none
  | false =>
      cases hread : (m.readDirectory now files).1 with
      | error e =>
          rw [list_of_aborted hlisted hread, readDirectory_eq]
          exact .none
      | ok r =>
          rw [list_of_read hlisted hread, readDirectory_eq]
          exact Puts.none.addAll Template.name fun _ _ => rfl

/-- A reload begins with nothing. -/
theorem puts_reload (m : Manager) (now : Timestamp) (files : Tree) :
    Puts (fun key u => u.name = key) [] (m.reload now files).2.registry := by
  cases hread : (m.clear.readDirectory now files).1 with
  | error e =>
      rw [reload_of_aborted hread, readDirectory_eq]
      exact .none
  | ok r =>
      rw [reload_of_read hread, readDirectory_eq]
      exact Puts.none.replaceAll Template.name fun _ _ => rfl

end Manager

namespace World

variable {w : World} {s : Step} {name : String} {t : Template}

/-- A step may put a template under a name: its own, or the one it was asked for. -/
def Admits (w : World) (s : Step) (name : String) (t : Template) : Prop :=
  t.name = name ∨
    s.operation.needs? = some name ∧ (w.manager.load s.now w.files name).1 = .ok t

/-- A step puts templates among those that are kept, or forgets all of them and begins anew. -/
theorem puts_step (w : World) (s : Step) :
    Puts (w.Admits s) w.manager.registry (w.step s).2.manager.registry ∨
      Puts (w.Admits s) [] (w.step s).2.manager.registry := by
  cases hneeds : s.operation.needs? with
  | some asked =>
      obtain ⟨metrics, hmanager, _⟩ := manager_of_needs (w := w) hneeds
      rw [hmanager]
      refine .inl ((Manager.puts_load w.manager s.now w.files asked).mono ?_)
      rintro name t ⟨rfl, hload⟩
      exact .inr ⟨hneeds, hload⟩
  | none =>
      obtain ⟨now, operation⟩ := s
      have hown : ∀ name t, t.name = name → w.Admits ⟨now, operation⟩ name t :=
        fun _ _ => .inl
      cases operation with
      | register t => exact .inl ((Manager.puts_register w.manager t).mono hown)
      | list => exact .inl ((Manager.puts_list w.manager now w.files).mono hown)
      | reload => exact .inr ((Manager.puts_reload w.manager now w.files).mono hown)
      | clear => exact .inr .none
      | get name => exact .inl .none
      | validateAll => exact .inl .none
      | change edit => exact .inl .none
      | load name => cases hneeds
      | render name values o => cases hneeds
      | execute cancelled name values o => cases hneeds
      | stream cancelled name values o handler => cases hneeds

theorem ordered_step (h : w.manager.registry.Ordered) (s : Step) :
    (w.step s).2.manager.registry.Ordered := by
  rcases w.puts_step s with hputs | hputs
  · exact hputs.ordered h
  · exact hputs.ordered .nil

/-- The templates that are kept are in the order of the names under which they are. -/
theorem ordered_run (h : w.manager.registry.Ordered) (steps : List Step) :
    (w.run steps).manager.registry.Ordered := by
  induction steps generalizing w with
  | nil => exact h
  | cons s rest ih => exact ih (ordered_step h s)

/-- What is kept after a step was kept before, or the step put it there. -/
theorem admitted_step (h : (w.step s).2.manager.get? name = some t) :
    w.manager.get? name = some t ∨ w.Admits s name t := by
  rcases w.puts_step s with hputs | hputs
  · exact hputs.get? h
  · rcases hputs.get? h with hnone | hadmits
    · cases hnone
    · exact .inr hadmits

end World

end PromptBook
