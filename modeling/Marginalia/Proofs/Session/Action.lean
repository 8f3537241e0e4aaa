import Marginalia.Session.Advance

/-!
# Running actions

An action is run on a world, and answers or fails in the world it leaves.  `run_bind` takes a
sequence of actions apart at its first one; the other equations say what the actions that look at
one part of the world do, together with what comes after them.  Nothing else unfolds an action.

`documents_advance` says that the report of a step, which hands out handles, changes no document.
-/

namespace Marginalia.Session

/-- The world that an action leaves, whether it fails or not. -/
def World.after {α : Type} (w : World) (act : Action α) : World :=
  (act.run w).2

/-- The world that steps of the host leave, made in turn whether they fail or not. -/
def World.afterAll (w : World) (steps : List Step) : World :=
  steps.foldl (fun w s => (advance s w).2) w

/-! ## Sequences -/

section
variable {α β : Type}

theorem run_bind (act : Action α) (k : α → Action β) (w : World) :
    (act >>= k).run w =
      match act.run w with
      | (.ok a, w') => (k a).run w'
      | (.error fault, w') => (.error fault, w') := by
  have hbind : (act >>= k).run w = ExceptT.bindCont k (act.run w).1 (act.run w).2 := rfl
  rw [hbind]
  cases act.run w with
  | mk r w' =>
    cases r with
    | ok a => rfl
    | error fault => rfl

theorem run_bind_ok {act : Action α} {a : α} {w w' : World} (h : act.run w = (.ok a, w'))
    (k : α → Action β) : (act >>= k).run w = (k a).run w' := by
  rw [run_bind, h]

theorem run_bind_error {act : Action α} {fault : Fault} {w w' : World}
    (h : act.run w = (.error fault, w')) (k : α → Action β) :
    (act >>= k).run w = (.error fault, w') := by
  rw [run_bind, h]

@[simp] theorem run_pure (a : α) (w : World) : (pure a : Action α).run w = (.ok a, w) := rfl

@[simp] theorem run_set (w w' : World) : (set w' : Action Unit).run w = (.ok (), w') := rfl

@[simp] theorem run_modify (f : World → World) (w : World) :
    (modify f : Action Unit).run w = (.ok (), f w) := rfl

@[simp] theorem run_ensuring (act : Action α) (f : World → World) (w : World) :
    (ensuring act f).run w = ((act.run w).1, f (act.run w).2) := rfl

/-! ## Looking at a part of the world -/

theorem get_bind (k : World → Action β) (w : World) : (get >>= k).run w = (k w).run w := rfl

theorem modify_bind (f : World → World) (k : Unit → Action β) (w : World) :
    (modify f >>= k).run w = (k ()).run (f w) := rfl

theorem orNothing_bind (x : Option α) (k : α → Action β) (w : World) :
    (orNothing x >>= k).run w =
      match x with
      | some a => (k a).run w
      | none => (.error .nothing, w) := by
  cases x with
  | none => rfl
  | some a => rfl

theorem orFault_bind {ε : Type} (fault : ε → Fault) (x : Except ε α) (k : α → Action β)
    (w : World) :
    (orFault fault x >>= k).run w =
      match x with
      | .ok a => (k a).run w
      | .error r => (.error (fault r), w) := by
  cases x with
  | error r => rfl
  | ok a => rfl

theorem document_bind (n : Nat) (k : Document → Action β) (w : World) :
    (document n >>= k).run w =
      match (w.documents : List Document)[n]? with
      | some d => (k d).run w
      | none => (.error .nothing, w) := by
  show (orNothing (w.documents : List Document)[n]? >>= k).run w = _
  cases (w.documents : List Document)[n]? with
  | none => rfl
  | some d => rfl

theorem document_bind_some {n : Nat} {d : Document} {w : World}
    (h : (w.documents : List Document)[n]? = some d) (k : Document → Action β) :
    (document n >>= k).run w = (k d).run w := by
  rw [document_bind, h]

theorem setDocument_bind (n : Nat) (d : Document) (k : Unit → Action β) (w : World) :
    (setDocument n d >>= k).run w =
      (k ()).run { w with documents := List.set w.documents n d } := rfl

theorem controller_bind (n : Nat) (k : Controller → Action β) (w : World) :
    (controller n >>= k).run w =
      match w.controllers[n]? with
      | some c => (k c).run w
      | none => (.error .nothing, w) := by
  show (orNothing w.controllers[n]? >>= k).run w = _
  cases w.controllers[n]? with
  | none => rfl
  | some c => rfl

theorem controller_bind_some {n : Nat} {c : Controller} {w : World}
    (h : w.controllers[n]? = some c) (k : Controller → Action β) :
    (controller n >>= k).run w = (k c).run w := by
  rw [controller_bind, h]

theorem store_bind (n : Nat) (k : Store → Action β) (w : World) :
    (store n >>= k).run w =
      match w.stores[n]? with
      | some s => (k s).run w
      | none => (.error .nothing, w) := by
  show (orNothing w.stores[n]? >>= k).run w = _
  cases w.stores[n]? with
  | none => rfl
  | some s => rfl

end

/-! ## Handles -/

theorem run_handle (mark : Mark) (w : World) :
    ∃ k more, (handle mark).run w = (.ok k, { w with handles := w.handles ++ more }) ∧
      (w.handles ++ more)[k]? = some mark := by
  unfold handle
  rw [get_bind]
  cases hk : w.handles.findIdx? (· == mark) with
  | some k =>
    refine ⟨k, [], ?_, ?_⟩
    · simp
    · obtain ⟨hlt, heq, -⟩ := List.findIdx?_eq_some_iff_getElem.mp hk
      have heq : w.handles[k] = mark := by simpa using heq
      rw [List.append_nil, List.getElem?_eq_getElem hlt, heq]
  | none => exact ⟨w.handles.length, [mark], rfl, by simp⟩

theorem run_handlesOf (n : Nat) (entries : List (Nat × Decoration)) (w : World) :
    ∃ ks more, (handlesOf n entries).run w = (.ok ks, { w with handles := w.handles ++ more }) := by
  induction entries generalizing w with
  | nil => exact ⟨[], [], by simp [handlesOf]⟩
  | cons entry rest ih =>
    obtain ⟨k, more, hrun, -⟩ := run_handle ⟨n, entry.1⟩ w
    obtain ⟨ks, others, hrest⟩ := ih { w with handles := w.handles ++ more }
    refine ⟨k :: ks, more ++ others, ?_⟩
    unfold handlesOf
    rw [run_bind_ok hrun, run_bind_ok hrest]
    simp

theorem after_view (n : Nat) (w : World) :
    ∃ more, w.after (view n) = { w with handles := w.handles ++ more } := by
  unfold World.after view
  rw [document_bind]
  cases (w.documents : List Document)[n]? with
  | none => exact ⟨[], by simp⟩
  | some d =>
    obtain ⟨ks, more, hrun⟩ := run_handlesOf n d.attached w
    refine ⟨more, ?_⟩
    simp only
    rw [run_bind_ok hrun]
    rfl

/-! ## Steps of the host -/

/-- The world in which the host makes its next step. -/
def World.resumed (w : World) : World :=
  { w with trace := .empty }

/-- The report of a step hands out handles and changes nothing else. -/
theorem advance_eq (s : Step) (w : World) :
    (advance s w).1.answer = ((step deepest s).run w.resumed).1 ∧
      ∃ more, (advance s w).2 =
        { w.resumed.after (step deepest s) with
          handles := (w.resumed.after (step deepest s)).handles ++ more } := by
  refine ⟨rfl, ?_⟩
  exact after_view s.document (w.resumed.after (step deepest s))

theorem documents_advance (s : Step) (w : World) :
    (advance s w).2.documents = (w.resumed.after (step deepest s)).documents := by
  obtain ⟨-, more, h⟩ := advance_eq s w
  rw [h]

theorem step_deepest (s : Step) : step deepest s = perform (step 199) s := rfl

end Marginalia.Session
