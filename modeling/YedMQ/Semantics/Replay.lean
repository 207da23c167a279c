import YedMQ.Semantics.Run

/-! # Replaying inputs on a state that has seen some of them

A copy of a state that is taken while inputs are consumed may already contain the
effect of the first ones. Replaying all inputs on the copy is harmless if every input
acts on each cell of the state by an update from a band: a family of idempotent updates
that is closed under composition.
-/

namespace YedMQ.Semantics

variable {ν : Type u} {ι : Type v}

/-- A family of updates that composition does not leave and repetition does not
change. -/
structure Band (Update : (ν → ν) → Prop) : Prop where
  refl : Update id
  comp : ∀ first second, Update first → Update second → Update (second ∘ first)
  idem : ∀ update, Update update → ∀ value, update (update value) = update value

def effect (act : ι → ν → ν) : List ι → ν → ν
  | [], value => value
  | input :: inputs, value => effect act inputs (act input value)

theorem effect_append (act : ι → ν → ν) (first second : List ι) (value : ν) :
    effect act (first ++ second) value = effect act second (effect act first value) := by
  induction first generalizing value with
  | nil => rfl
  | cons input inputs induction => exact induction (act input value)

variable {Update : (ν → ν) → Prop} {act : ι → ν → ν}

variable {inputs : List ι}

section

variable (band : Band Update)

include band

theorem Band.effect_mem (acts : ∀ input ∈ inputs, Update (act input)) :
    Update (effect act inputs) := by
  induction inputs with
  | nil => exact band.refl
  | cons input inputs induction =>
    have later := induction fun other member => acts other (List.mem_cons_of_mem _ member)
    exact band.comp _ _ (acts input List.mem_cons_self) later

theorem Band.replay {seen : List ι} (seenFirst : seen <+: inputs)
    (acts : ∀ input ∈ inputs, Update (act input)) (value : ν) :
    effect act inputs (effect act seen value) = effect act inputs value := by
  rcases seenFirst with ⟨_, split⟩
  subst split
  have seenActs : Update (effect act seen) :=
    band.effect_mem fun input member => acts input (List.mem_append_left _ member)
  rw [effect_append, effect_append, band.idem _ seenActs]

theorem Band.ite {update : ν → ν} (inside : Update update)
    (condition : Prop) [Decidable condition] : Update (if condition then update else id) := by
  split
  · exact inside
  · exact band.refl

theorem Band.elim {α : Type w} {update : α → ν → ν}
    (inside : ∀ item, Update (update item)) (chosen : Option α) :
    Update (chosen.elim id update) := by
  cases chosen with
  | none => exact band.refl
  | some item => exact inside item

end

/-- If every step acts on what `read` shows of a state, so does every run. -/
theorem read_run {σ : Type w} {step : σ → ι → Option σ} (read : σ → ν) (Invariant : σ → Prop)
    {state final : σ}
    (preserves : ∀ input ∈ inputs, ∀ state next, Invariant state →
      step state input = some next → Invariant next)
    (reads : ∀ input ∈ inputs, ∀ state next, Invariant state →
      step state input = some next → read next = act input (read state)) (initial : Invariant state)
    (runs : run step state inputs = some final) :
    read final = effect act inputs (read state) := by
  induction inputs generalizing state with
  | nil =>
    cases runs
    rfl
  | cons input inputs induction =>
    rcases Option.bind_eq_some_iff.mp runs with ⟨next, stepped, rest⟩
    have kept := preserves input List.mem_cons_self state next initial stepped
    have later := induction (fun other member => preserves other (List.mem_cons_of_mem _ member))
      (fun other member => reads other (List.mem_cons_of_mem _ member)) kept rest
    rw [later, reads input List.mem_cons_self state next initial stepped]
    rfl

section Isolation

variable {ρ : Type t} {about : ι → Option ρ}

theorem effect_filterMap {act : ρ → ν → ν} (inputs : List ι) (value : ν) :
    effect act (inputs.filterMap about) value =
      effect (fun input => (about input).elim id act) inputs value := by
  induction inputs generalizing value with
  | nil => rfl
  | cons input inputs induction =>
    rw [effect, ← induction, List.filterMap_cons]
    cases about input <;> rfl

/-- What `read` shows of a state depends only on what the inputs say about it: runs that agree
on this, from states that show the same, end in states that show the same. -/
def Isolated {σ : Type w} (step : σ → ι → Option σ) (Invariant : σ → Prop) (read : σ → ν)
    (about : ι → Option ρ) : Prop :=
  ∀ ⦃left right final other : σ⦄ ⦃inputs others : List ι⦄, Invariant left → Invariant right →
    read left = read right → inputs.filterMap about = others.filterMap about →
      run step left inputs = some final → run step right others = some other →
        read final = read other

theorem isolated_of_reads {σ : Type w} {step : σ → ι → Option σ} {Invariant : σ → Prop}
    {read : σ → ν} (act : ρ → ν → ν)
    (preserves : ∀ input state next, Invariant state → step state input = some next →
      Invariant next)
    (reads : ∀ input state next, Invariant state → step state input = some next →
      read next = (about input).elim id act (read state)) :
    Isolated step Invariant read about := by
  intro left right final other inputs others initial start same own runs otherRuns
  have ends : ∀ {state final inputs}, Invariant state → run step state inputs = some final →
      read final = effect act (inputs.filterMap about) (read state) := by
    intro state final inputs holds runs
    rw [effect_filterMap]
    exact read_run read Invariant (fun input _ => preserves input) (fun input _ => reads input)
      holds runs
  rw [ends initial runs, ends start otherRuns, own, same]

end Isolation

/-! ## Families of updates -/

/-- Overwrite the cell or leave it alone. -/
def Overwrite (update : ν → ν) : Prop :=
  update = id ∨ ∃ value, update = fun _ => value

/-- Constant updates may be added to every band. -/
theorem Band.orOverwrite (band : Band Update) :
    Band fun update => Update update ∨ ∃ value, update = fun _ => value where
  refl := .inl band.refl
  comp := by
    intro first second firstCase secondCase
    rcases secondCase with later | ⟨value, overwrites⟩
    · rcases firstCase with earlier | ⟨value, overwrites⟩
      · exact .inl (band.comp first second earlier later)
      · subst overwrites
        exact .inr ⟨second value, rfl⟩
    · subst overwrites
      exact .inr ⟨value, rfl⟩
  idem := by
    intro update cases value
    rcases cases with inside | ⟨_, overwrites⟩
    · exact band.idem update inside value
    · subst overwrites
      rfl

theorem Overwrite.band : Band (@Overwrite ν) := by
  apply Band.orOverwrite
  refine ⟨rfl, ?_, ?_⟩
  · rintro first second rfl rfl
    rfl
  · rintro update rfl value
    rfl

def raise (condition : Prop) [Decidable condition] (flag : Bool) : Bool :=
  flag || decide condition

theorem Overwrite.raise (condition : Prop) [Decidable condition] : Overwrite (raise condition) := by
  by_cases holds : condition
  · refine .inr ⟨true, funext fun flag => ?_⟩
    simp [Semantics.raise, holds]
  · refine .inl (funext fun flag => ?_)
    simp [Semantics.raise, holds]

def Within (Update : (ν → ν) → Prop) (update : Option ν → Option ν) : Prop :=
  (∃ inside, Update inside ∧ update = Option.map inside) ∨ ∃ value, update = fun _ => value

theorem Within.band (band : Band Update) : Band (Within Update) := by
  apply Band.orOverwrite
  refine ⟨⟨id, band.refl, Option.map_id.symm⟩, ?_, ?_⟩
  · rintro _ _ ⟨earlier, earlierUpdate, rfl⟩ ⟨inside, isUpdate, rfl⟩
    exact ⟨inside ∘ earlier, band.comp _ _ earlierUpdate isUpdate,
      Option.map_comp_map earlier inside⟩
  · rintro _ ⟨inside, isUpdate, rfl⟩ value
    cases value with
    | none => rfl
    | some value => exact congrArg some (band.idem inside isUpdate value)

def Dropping (update : Option ν → Option ν) : Prop :=
  (∃ keep : ν → Bool, update = Option.filter keep) ∨ ∃ value, update = fun _ => value

theorem Dropping.band : Band (@Dropping ν) := by
  apply Band.orOverwrite
  refine ⟨⟨fun _ => true, ?_⟩, ?_, ?_⟩
  · funext value
    cases value <;> rfl
  · rintro _ _ ⟨earlier, rfl⟩ ⟨keep, rfl⟩
    refine ⟨fun value => earlier value && keep value, ?_⟩
    funext value
    exact Option.filter_filter
  · simp [Option.filter_filter]

def Filling (update : Option ν → Option ν) : Prop :=
  update = id ∨ (∃ value, update = fun current => some (current.getD value)) ∨
    ∃ value, update = fun _ => value

theorem Filling.band : Band (@Filling ν) where
  refl := .inl rfl
  comp := by
    intro first second firstCase secondCase
    rcases secondCase with same | ⟨value, fills⟩ | ⟨value, overwrites⟩
    · subst same
      exact firstCase
    · subst fills
      rcases firstCase with same | ⟨earlier, fills⟩ | ⟨earlier, overwrites⟩
      · subst same
        exact .inr (.inl ⟨value, rfl⟩)
      · subst fills
        exact .inr (.inl ⟨earlier, rfl⟩)
      · subst overwrites
        exact .inr (.inr ⟨some (earlier.getD value), rfl⟩)
    · subst overwrites
      exact .inr (.inr ⟨value, rfl⟩)
  idem := by
    intro update cases value
    rcases cases with same | ⟨other, fills⟩ | ⟨_, overwrites⟩
    · subst same
      rfl
    · subst fills
      rfl
    · subst overwrites
      rfl

end YedMQ.Semantics
