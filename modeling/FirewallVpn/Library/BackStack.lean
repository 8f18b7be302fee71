import FirewallVpn.Library.Transition
import Mathlib.Logic.Relation

/-! Back stacks. A screen that is drawn may add another one to the stack, and the last
one may be taken off again. Which screens a user can ever get to see is decided by the
graph of the additions alone. -/

set_option autoImplicit false

universe u

/-- `drawn` are the screens that have been on the stack since it was made: one that is
taken off can be tapped while it fades out. -/
structure BackStack (Screen : Type u) where
  screens : List Screen
  drawn : List Screen
  deriving DecidableEq

namespace BackStack

variable {Screen : Type u}

def created (start : Screen) : BackStack Screen where
  screens := [start]
  drawn := [start]

def add (stack : BackStack Screen) (screen : Screen) : BackStack Screen where
  screens := stack.screens ++ [screen]
  drawn := stack.drawn ++ [screen]

def removeLast (stack : BackStack Screen) : BackStack Screen :=
  { stack with screens := stack.screens.dropLast }

/-- The stack is made anew, from what was saved of it or from its first screen. -/
def restored (stack : BackStack Screen) (start : Screen) (saved : Bool) : BackStack Screen :=
  if saved then { screens := stack.screens, drawn := stack.screens } else created start

inductive Label (Screen : Type u) where
  | add (source target : Screen)
  | removeLast
  | restored (saved : Bool)

section Graph

variable (opens : Screen → Screen → Prop) (start : Screen)

/-- Every screen on the stack, or on it before, has a way to it from the first one. -/
def Within (stack : BackStack Screen) : Prop :=
  ∀ screen, screen ∈ stack.screens ∨ screen ∈ stack.drawn →
    Relation.ReflTransGen opens start screen

theorem within_created : Within opens start (created start) := by
  intro screen listed
  rw [List.mem_singleton.mp (or_self_iff.mp listed)]

variable [DecidableEq Screen] [DecidableRel opens]

def step (stack : BackStack Screen) : Label Screen → Option (BackStack Screen)
  | .add source target =>
      if source ∈ stack.drawn ∧ opens source target then some (stack.add target) else none
  | .removeLast => some stack.removeLast
  | .restored saved => some (stack.restored start saved)

variable {opens start} {stack next : BackStack Screen}

theorem Within.step {label : Label Screen} (within : Within opens start stack)
    (taken : stack.step opens start label = some next) : Within opens start next := by
  cases label with
  | add source target =>
      simp only [BackStack.step] at taken
      split at taken <;> cases taken
      next allowed =>
        have reached := (within source (.inr allowed.1)).tail allowed.2
        intro screen listed
        rcases listed with listed | listed
        · rcases List.mem_append.mp listed with old | new
          · exact within screen (.inl old)
          · exact List.mem_singleton.mp new ▸ reached
        · rcases List.mem_append.mp listed with old | new
          · exact within screen (.inr old)
          · exact List.mem_singleton.mp new ▸ reached
  | removeLast =>
      cases taken
      intro screen listed
      rcases listed with listed | listed
      · exact within screen (.inl (List.dropLast_subset _ listed))
      · exact within screen (.inr listed)
  | restored saved =>
      cases taken
      cases saved with
      | false => exact within_created opens start
      | true => exact fun screen listed => within screen (.inl (or_self_iff.mp listed))

/-- A screen can be drawn exactly if the additions lead to it. -/
theorem drawn_iff {screen : Screen} :
    (∃ stack, Transition.Reachable (step opens start) (created start) stack ∧
      screen ∈ stack.drawn) ↔ Relation.ReflTransGen opens start screen := by
  constructor
  · intro seen
    obtain ⟨stack, reachable, drawn⟩ := seen
    have within : Within opens start stack :=
      reachable.invariant (Within opens start) (fun _ _ _ within taken => within.step taken)
        (within_created opens start)
    exact within screen (.inr drawn)
  · intro path
    induction path with
    | refl => exact ⟨created start, .refl _, List.mem_singleton_self start⟩
    | @tail source target _ opened ih =>
        obtain ⟨stack, reachable, drawn⟩ := ih
        have added : stack.step opens start (.add source target) = some (stack.add target) :=
          if_pos ⟨drawn, opened⟩
        exact ⟨stack.add target, reachable.tail added,
          List.mem_append_right _ (List.mem_singleton_self target)⟩

end Graph

end BackStack
