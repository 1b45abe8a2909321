import Mathlib.Data.Multiset.AddSub
import Mathlib.Data.Multiset.Count

/-!
# Accounts of objects

Objects are created, used, bound for drawing and released. A list of such events is accounted for
when it leads from the objects held before it to those held after it: a creation adds an object, a
release takes one away, and whatever is used, bound or released is held at that moment. What is
held is a multiset, so nothing is assumed about names: an object whose name is given out again
after its release counts as a new one, and one that is given out twice is held twice.

Accounted events can be put one after the other and can happen beside objects that they do not
touch. From the four rules follow the statements about releases: no object is released more often
than it was created, and none is touched between its release and the next creation of its name.
-/
namespace LiveShader

variable {Object : Type}

/-- Something that happens to an object. -/
inductive ObjectEvent (Object : Type) where
  | created (object : Object)
  | used (object : Object)
  /-- It is what is drawn with from now on. -/
  | bound (object : Object)
  | released (object : Object)
  deriving DecidableEq

namespace ObjectEvent

/-- The object of an event. -/
def object : ObjectEvent Object → Object
  | created object => object
  | used object => object
  | bound object => object
  | released object => object

end ObjectEvent

/-- The object that was bound last, if any was. -/
def lastBound : List (ObjectEvent Object) → Option Object
  | [] => none
  | .bound object :: rest => (lastBound rest).or (some object)
  | _ :: rest => lastBound rest

/-- The events lead from the objects held before them to the objects held after them, and touch
nothing that is not held. -/
inductive Accounted : Multiset Object → List (ObjectEvent Object) → Multiset Object → Prop where
  | settled (held : Multiset Object) : Accounted held [] held
  | created {held left : Multiset Object} {rest : List (ObjectEvent Object)} (object : Object)
      (tail : Accounted (object ::ₘ held) rest left) : Accounted held (.created object :: rest) left
  | used {held left : Multiset Object} {rest : List (ObjectEvent Object)} (object : Object)
      (member : object ∈ held) (tail : Accounted held rest left) :
      Accounted held (.used object :: rest) left
  | bound {held left : Multiset Object} {rest : List (ObjectEvent Object)} (object : Object)
      (member : object ∈ held) (tail : Accounted held rest left) :
      Accounted held (.bound object :: rest) left
  | released {held left : Multiset Object} {rest : List (ObjectEvent Object)} (object : Object)
      (tail : Accounted held rest left) :
      Accounted (object ::ₘ held) (.released object :: rest) left

/-- What is bound last in a list is bound in its second part, or else in its first. -/
theorem last_bound_append (first second : List (ObjectEvent Object)) :
    lastBound (first ++ second) = (lastBound second).or (lastBound first) := by
  induction first with
  | nil => simp [lastBound]
  | cons event rest induction =>
    cases event <;> simp [lastBound, induction]

namespace Accounted

variable {held between left : Multiset Object} {events first second : List (ObjectEvent Object)}

/-- One list of events after another. -/
theorem append (earlier : Accounted held first between) (later : Accounted between second left) :
    Accounted held (first ++ second) left := by
  induction earlier with
  | settled held => exact later
  | created object tail induction => exact .created object (induction later)
  | used object member tail induction => exact .used object member (induction later)
  | bound object member tail induction => exact .bound object member (induction later)
  | released object tail induction => exact .released object (induction later)

/-- Events do not disturb objects that are held beside those they touch. -/
theorem beside (run : Accounted held events left) (others : Multiset Object) :
    Accounted (held + others) events (left + others) := by
  induction run with
  | settled held => exact .settled _
  | created object tail induction =>
    exact .created object (by simpa only [Multiset.cons_add] using induction)
  | used object member tail induction =>
    exact .used object (Multiset.mem_add.mpr (Or.inl member)) induction
  | bound object member tail induction =>
    exact .bound object (Multiset.mem_add.mpr (Or.inl member)) induction
  | released object tail induction =>
    rw [Multiset.cons_add]
    exact .released object induction

/-- At every moment of accounted events some objects are held. -/
theorem split (run : Accounted held (first ++ second) left) :
    ∃ between, Accounted held first between ∧ Accounted between second left := by
  induction first generalizing held with
  | nil => exact ⟨held, .settled held, run⟩
  | cons event rest induction =>
    cases run with
    | created object tail =>
      obtain ⟨between, earlier, later⟩ := induction tail
      exact ⟨between, .created object earlier, later⟩
    | used object member tail =>
      obtain ⟨between, earlier, later⟩ := induction tail
      exact ⟨between, .used object member earlier, later⟩
    | bound object member tail =>
      obtain ⟨between, earlier, later⟩ := induction tail
      exact ⟨between, .bound object member earlier, later⟩
    | released object tail =>
      obtain ⟨between, earlier, later⟩ := induction tail
      exact ⟨between, .released object earlier, later⟩

/-- What is held after events is decided by them and by what was held before. -/
theorem unique {other : Multiset Object} (run : Accounted held events left)
    (again : Accounted held events other) : left = other := by
  induction run with
  | settled held =>
    cases again
    rfl
  | created object tail induction =>
    cases again with
    | created _ repeated => exact induction repeated
  | used object member tail induction =>
    cases again with
    | used _ _ repeated => exact induction repeated
  | bound object member tail induction =>
    cases again with
    | bound _ _ repeated => exact induction repeated
  | released object tail induction =>
    generalize started : object ::ₘ _ = whole at again
    cases again with
    | released _ repeated =>
      rw [Multiset.cons_inj_right] at started
      subst started
      exact induction repeated

/-- An object that is not held and not created is not touched. -/
theorem untouched {object : Object} (run : Accounted held events left) (absent : object ∉ held)
    (fresh : .created object ∉ events) : ∀ event ∈ events, event.object ≠ object := by
  induction run with
  | settled held => simp
  | created other tail induction =>
    have different : other ≠ object := by
      rintro rfl
      exact fresh List.mem_cons_self
    have absentLater : object ∉ other ::ₘ _ := fun member =>
      (Multiset.mem_cons.mp member).elim (fun same => different same.symm) absent
    have later := induction absentLater (fun member => fresh (List.mem_cons_of_mem _ member))
    exact List.forall_mem_cons.mpr ⟨different, later⟩
  | used other member tail induction =>
    have later := induction absent (fun member => fresh (List.mem_cons_of_mem _ member))
    exact List.forall_mem_cons.mpr ⟨fun same => absent (same ▸ member), later⟩
  | bound other member tail induction =>
    have later := induction absent (fun member => fresh (List.mem_cons_of_mem _ member))
    exact List.forall_mem_cons.mpr ⟨fun same => absent (same ▸ member), later⟩
  | released other tail induction =>
    have later := induction (fun member => absent (Multiset.mem_cons_of_mem member))
      (fun member => fresh (List.mem_cons_of_mem _ member))
    exact List.forall_mem_cons.mpr
      ⟨fun same => absent (same ▸ Multiset.mem_cons_self other _), later⟩

variable [DecidableEq Object]

/-- Creations and releases account for the difference between what is held before and after. -/
theorem balance (run : Accounted held events left) (object : Object) :
    held.count object + events.count (.created object) =
      left.count object + events.count (.released object) := by
  induction run with
  | settled held => simp
  | created other tail induction =>
    by_cases same : other = object
    · subst same
      simp only [Multiset.count_cons_self, List.count_cons_self] at induction ⊢
      simp only [List.count_cons, beq_iff_eq, reduceCtorEq, if_false] at induction ⊢
      omega
    · have other' : object ≠ other := fun equal => same equal.symm
      simpa [List.count_cons, same, Multiset.count_cons_of_ne other'] using induction
  | used other member tail induction => simpa [List.count_cons] using induction
  | bound other member tail induction => simpa [List.count_cons] using induction
  | released other tail induction =>
    by_cases same : other = object
    · subst same
      simp only [Multiset.count_cons_self, List.count_cons, beq_iff_eq, reduceCtorEq, if_false,
        if_true] at induction ⊢
      omega
    · have other' : object ≠ other := fun equal => same equal.symm
      simpa [List.count_cons, same, Multiset.count_cons_of_ne other'] using induction

end Accounted

open scoped Classical in
/-- What a caller owes to whoever hands out objects: exactly the objects `live` are left, each
object is released at most once for each time it was created, and after its release it is not
touched before its name is given out again. -/
structure Orderly (events : List (ObjectEvent Object))
    (live : Multiset Object) : Prop where
  accounted : Accounted 0 events live
  /-- This is so at every moment, not only at the end. -/
  releasedOnce : ∀ earlier later, events = earlier ++ later → ∀ object,
    earlier.count (.released object) ≤ earlier.count (.created object)
  /-- What is released was live once at that time: its name was not given out twice. -/
  goneOnceReleased : ∀ earlier object between later,
    events = earlier ++ .released object :: (between ++ later) →
    earlier.count (.created object) ≤ earlier.count (.released object) + 1 →
    .created object ∉ between → ∀ event ∈ between, event.object ≠ object

open scoped Classical in
/-- Accounted events that start from nothing are orderly.

Every part of the list is accounted for too. Its balance bounds the releases; and an object that
was live once is not held after its release, so it is not touched until it is created again. -/
theorem Accounted.orderly {events : List (ObjectEvent Object)}
    {live : Multiset Object} (run : Accounted 0 events live) : Orderly events live where
  accounted := run
  releasedOnce := by
    rintro earlier later rfl object
    obtain ⟨held, before, -⟩ := run.split
    have even := before.balance object
    rw [Multiset.count_zero] at even
    omega
  goneOnceReleased := by
    rintro earlier object between later rfl single fresh
    obtain ⟨held, before, released⟩ := run.split
    have even := before.balance object
    cases released with
    | released _ after =>
      rename_i left
      obtain ⟨middle, during, -⟩ := after.split
      have gone : object ∉ left := by
        rw [← Multiset.count_eq_zero]
        simp only [Multiset.count_zero, Multiset.count_cons_self] at even
        omega
      exact during.untouched gone fresh

end LiveShader
