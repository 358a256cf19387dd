import Mathlib.Data.List.Chain
import Mathlib.Data.List.Infix
import SpatialColumns.Error

/-!
# Layers of errors

An error is a root under locations, and each location is a layer of its own.
Layers only ever come in front: they open the message, they are passed one by
one on the way to the causes, and they leave the root as it is. Behind the root
comes what caused it, which may be an error with layers in turn.
-/

namespace SpatialColumns

/-! ## Locations -/

section Locations

variable {ε : Type} (context : String → ε → ε)

/-- An error under locations, outermost first. -/
def nest (locations : List String) (e : ε) : ε := locations.foldr context e

/-- An error under locations, then without the outermost one, and so on down to the error. -/
def layers (locations : List String) (e : ε) : List ε :=
  locations.tails.map fun inner => nest context inner e

theorem layers_cons (location : String) (locations : List String) (e : ε) :
    layers context (location :: locations) e =
      context location (nest context locations e) :: layers context locations e := by
  rw [layers, List.tails_cons, List.map_cons]
  rfl

end Locations

/-! ## Decoding -/

namespace DecodeError

theorem nest_locations (e : DecodeError) : nest context e.locations e.root = e := by
  induction e with
  | context location source ih =>
      rw [locations, root, nest, List.foldr_cons]
      exact congrArg (context location) ih
  | _ => rfl

/-- An error of decoding is caused by its own layers, one after the other. -/
theorem chain_eq (e : DecodeError) : e.chain = layers context e.locations e.root := by
  induction e with
  | context location source ih =>
      rw [chain, locations, root, layers_cons, nest_locations, ih]
  | _ => rfl

end DecodeError

/-! ## Causes -/

/-- All the causes that follow from a first one, each the source of the one before it, down to
the last one, which has no source. -/
inductive Traced : Cause → List Cause → Prop
  | last {cause : Cause} (h : cause.source? = none) : Traced cause [cause]
  | next {cause source : Cause} {causes : List Cause} (h : cause.source? = some source)
      (rest : Traced source causes) : Traced cause (cause :: causes)

/-- The message of a cause ends with the message of its source. -/
theorem Cause.exists_message_eq {cause source : Cause} (h : cause.source? = some source) :
    ∃ opening, cause.message = opening ++ source.message := by
  match cause, h with
  | .error (.allocation operation source), rfl =>
    exact ⟨"allocation failed in " ++ operation ++ ": ", rfl⟩
  | .error (.column operation source), rfl =>
    exact ⟨"arrow error in " ++ operation ++ ": ", rfl⟩
  | .error (.decoding source), rfl => exact ⟨"deserialization error: ", rfl⟩
  | .error (.context location source), rfl => exact ⟨location ++ ": ", rfl⟩
  | .decoding (.context location source), rfl => exact ⟨location ++ ": ", rfl⟩

theorem Traced.head?_eq {cause : Cause} {causes : List Cause} (h : Traced cause causes) :
    causes.head? = some cause := by
  cases h <;> rfl

/-- From cause to cause a message loses what stands before the message of the next one. -/
theorem Traced.isChain {cause : Cause} {causes : List Cause} (h : Traced cause causes) :
    causes.IsChain fun outer inner => ∃ opening, outer.message = opening ++ inner.message := by
  induction h with
  | last => exact .singleton _
  | next hsource rest ih =>
      refine List.isChain_cons.mpr ⟨fun inner hinner => ?_, ih⟩
      rw [rest.head?_eq, Option.mem_some_iff] at hinner
      exact hinner ▸ Cause.exists_message_eq hsource

theorem DecodeError.traced (e : DecodeError) : Traced (.decoding e) (e.chain.map .decoding) := by
  induction e with
  | context location source ih => exact .next rfl ih
  | _ => exact .last rfl

namespace Error

/-- What the innermost error was caused by. -/
def reasons : Error → List Cause
  | allocation _ source => [.allocation source]
  | column _ source => [.column source]
  | decoding source => (layers .context source.locations source.root).map .decoding
  | _ => []

theorem nest_locations (e : Error) : nest context e.locations e.root = e := by
  induction e with
  | context location source ih =>
      rw [locations, root, nest, List.foldr_cons]
      exact congrArg (context location) ih
  | _ => rfl

theorem root_ne_context (e : Error) (location : String) (source : Error) :
    e.root ≠ context location source := by
  induction e with
  | context _ _ ih => exact ih
  | _ => nofun

theorem root_nest (locations : List String) (e : Error) :
    (nest context locations e).root = e.root := by
  induction locations with
  | nil => rfl
  | cons location locations ih => exact ih

theorem isAllocation_iff (e : Error) :
    e.isAllocation = true ↔ ∃ operation source, e.root = allocation operation source := by
  unfold isAllocation
  split
  next operation source h => exact iff_of_true rfl ⟨operation, source, h⟩
  next hother =>
    refine iff_of_false nofun ?_
    rintro ⟨operation, source, h⟩
    exact hother operation source h

/-- A message is the locations and then the message of the root. -/
theorem message_eq (e : Error) :
    e.message = ": ".intercalate (e.locations ++ [e.root.message]) := by
  induction e with
  | context location source ih =>
      have hne : source.locations ++ [source.root.message] ≠ [] := by simp
      calc
        (context location source).message = location ++ ": " ++ source.message := rfl
        _ = location ++ ": " ++ ": ".intercalate (source.locations ++ [source.root.message]) := by
          rw [ih]
        _ = ": ".intercalate (location :: (source.locations ++ [source.root.message])) :=
          (String.intercalate_cons_of_ne_nil hne).symm
        _ = ": ".intercalate
            ((context location source).locations ++ [(context location source).root.message]) := rfl
  | _ => simp only [locations, root, List.nil_append, String.intercalate_singleton]

theorem chain_eq (e : Error) :
    e.chain = (layers context e.locations e.root).map .error ++ e.root.reasons := by
  induction e with
  | context location source ih =>
      rw [chain, locations, root, layers_cons, nest_locations, ih]
      rfl
  | decoding source =>
      rw [chain, DecodeError.chain_eq]
      rfl
  | _ => rfl

/-- The causes of an error are traced down to the last one. -/
theorem traced (e : Error) : Traced (.error e) e.chain := by
  induction e with
  | allocation operation source => exact .next rfl (.last rfl)
  | column operation source => exact .next rfl (.last rfl)
  | decoding source => exact .next rfl source.traced
  | context location source ih => exact .next rfl ih
  | _ => exact .last rfl

/-- The layers of an error. It is its root under its locations, whatever the root is but a
layer: the message names the locations in order before the message of the root, and the causes
are the layers in order, the root, and what the root was caused by with its own layers. A step
that says where it happened adds one location to an error, also to one of decoding, and nothing
to a value. -/
theorem layered (e : Error) :
    (∀ location source, e.root ≠ context location source) ∧
    (∀ locations, (nest context locations e).root = e.root) ∧
    (e.isAllocation = true ↔ ∃ operation source, e.root = allocation operation source) ∧
    nest context e.locations e.root = e ∧
    e.message = ": ".intercalate (e.locations ++ [e.root.message]) ∧
    e.chain = (layers context e.locations e.root).map .error ++ e.root.reasons ∧
    Traced (.error e) e.chain ∧
    (e.chain.IsChain fun outer inner => ∃ opening, outer.message = opening ++ inner.message) ∧
    (∀ {α : Type} (location : String),
      (∀ a : α, within location (.ok a) = .ok a) ∧
      ∃ outer, within location (.error e : Except Error α) = .error outer ∧
        outer.locations = location :: e.locations ∧ outer.root = e.root) ∧
    ∀ {α : Type} (location : String) (d : DecodeError),
      (∀ a : α, DecodeError.within location (.ok a) = .ok a) ∧
      ∃ outer, DecodeError.within location (.error d : Except DecodeError α) = .error outer ∧
        outer.locations = location :: d.locations ∧ outer.root = d.root :=
  ⟨e.root_ne_context, fun locations => root_nest locations e, e.isAllocation_iff,
    e.nest_locations, e.message_eq, e.chain_eq, e.traced, e.traced.isChain,
    fun location => ⟨fun _ => rfl, context location e, rfl, rfl, rfl⟩,
    fun location d => ⟨fun _ => rfl, .context location d, rfl, rfl, rfl⟩⟩

end Error

end SpatialColumns
