import EntityBase.Proofs.MessagePack.Reading

namespace EntityBase

/-!
# Items cut short

No item that a reader takes whole can be taken from a strict prefix of its
bytes.  It is not necessary to follow a reader to the place where the bytes end.
What a steady reader has taken from a prefix it also takes from all the bytes,
and then something is left over; but of an item that is read back nothing is.

So steadiness is all that has to be carried from the parts of a reader to the
reader, and passing over an item is part of that: a field of an unknown name may
stand anywhere in a record.
-/

namespace MessagePack

variable {α β : Type}

/-- A strict prefix of an item that is read back cannot be read. -/
theorem Steady.eq_none_of_prefix {reader : Reader α} {bytes part : List UInt8} {item : α}
    (steady : Steady reader) (reads : Reads reader bytes item) (isPrefix : part <+: bytes)
    (strict : part ≠ bytes) : reader part = none := by
  rcases isPrefix with ⟨missing, rfl⟩
  apply Option.eq_none_iff_forall_ne_some.mpr
  rintro ⟨other, rest⟩ taken
  have whole := reads []
  rw [List.append_nil, steady part missing other rest taken, Option.some.injEq,
    Prod.mk.injEq] at whole
  have nothing : missing = [] := (List.append_eq_nil_iff.mp whole.2).2
  rw [nothing, List.append_nil] at strict
  exact strict rfl

/-! ## Single items -/

theorem Steady.scalar (scalar? : Head → Option α) : Steady (readScalar scalar?) := by
  refine Head.steady_read?.bind fun head => ?_
  change Steady fun rest => (scalar? head).bind fun scalar => some (scalar, rest)
  cases scalar? head with
  | none => exact steady_none
  | some scalar => exact steady_some scalar

theorem Steady.many {reader : Reader α} (steady : Steady reader) (count : Nat) :
    Steady (readMany reader count) := by
  induction count with
  | zero => exact steady_some []
  | succ count ih => exact steady.bind fun item => ih.bind fun items => steady_some (item :: items)

/-! ## Items passed over -/

/-- What is left after a step is what would be left, and the bytes that follow. -/
def SteadyStep (step : List UInt8 → Option (List UInt8)) : Prop :=
  ∀ bytes more rest : List UInt8, step bytes = some rest → step (bytes ++ more) = some (rest ++ more)

variable {step : List UInt8 → Option (List UInt8)}

theorem SteadyStep.repeated (steady : SteadyStep step) (count : Nat) :
    SteadyStep (repeated step count) := by
  induction count with
  | zero =>
      intro bytes more rest passed
      cases passed
      rfl
  | succ count ih =>
      intro bytes more rest passed
      rcases Option.bind_eq_some_iff.mp passed with ⟨between, first, last⟩
      exact Option.bind_eq_some_iff.mpr
        ⟨_, steady bytes more between first, ih between more rest last⟩

theorem SteadyStep.skip? (depth : Nat) : SteadyStep (skip? depth) := by
  induction depth with
  | zero =>
      intro bytes more rest passed
      cases taken : Head.read? bytes with
      | none => simp [MessagePack.skip?, taken] at passed
      | some answer =>
          rcases answer with ⟨head, left⟩
          have again := Head.steady_read? bytes more head left taken
          cases head <;> simp_all [MessagePack.skip?]
  | succ depth ih =>
      intro bytes more rest passed
      cases taken : Head.read? bytes with
      | none => simp [MessagePack.skip?, taken] at passed
      | some answer =>
          rcases answer with ⟨head, left⟩
          have again := Head.steady_read? bytes more head left taken
          simp only [MessagePack.skip?, taken, again] at passed ⊢
          cases head with
          | array length => exact ih.repeated length left more rest passed
          | map length => exact ih.repeated (2 * length) left more rest passed
          | _ =>
              cases passed
              rfl

/-- An item after one that is passed over. -/
theorem SteadyStep.bind (passes : SteadyStep step) {reader : Reader α} (steady : Steady reader) :
    Steady fun bytes => (step bytes).bind reader := by
  intro bytes more item rest taken
  rcases Option.bind_eq_some_iff.mp taken with ⟨between, first, last⟩
  exact Option.bind_eq_some_iff.mpr
    ⟨_, passes bytes more between first, steady between more item rest last⟩

/-! ## Records of two fields -/

section Pairs

variable {readFirst : Reader α} {readSecond : Reader β}

theorem Steady.entries (names : List String) (steadyFirst : Steady readFirst)
    (steadySecond : Steady readSecond) (first : Option α) (second : Option β) (count : Nat) :
    Steady (readEntries names readFirst readSecond first second count) := by
  induction count generalizing first second with
  | zero => exact steady_some (first, second)
  | succ count ih =>
      refine (Steady.scalar (Head.position? names)).bind fun position => ?_
      have passes : Steady fun bytes => (MessagePack.skip? skippedDepth bytes).bind
          (readEntries names readFirst readSecond first second count) :=
        (SteadyStep.skip? skippedDepth).bind (ih first second)
      match position, first, second with
      | 0, none, _ => exact steadyFirst.bind fun content => ih (some content) _
      | 1, _, none => exact steadySecond.bind fun content => ih _ (some content)
      | 0, some _, _ => exact steady_none
      | 1, _, some _ => exact steady_none
      | _ + 2, _, _ => exact passes

theorem Steady.pair (firstName secondName : String) (steadyFirst : Steady readFirst)
    (steadySecond : Steady readSecond) :
    Steady (readPair firstName secondName readFirst readSecond) := by
  refine Head.steady_read?.bind fun head => ?_
  cases head with
  | map length =>
      refine (Steady.entries _ steadyFirst steadySecond none none length).bind ?_
      rintro ⟨_ | first, _ | second⟩
      · exact steady_none
      · exact steady_none
      · exact steady_none
      · exact steady_some (first, second)
  | array length =>
      match length with
      | 2 =>
          exact steadyFirst.bind fun first => steadySecond.bind fun second =>
            steady_some (first, second)
      | 0 | 1 | _ + 3 => exact steady_none
  | _ => exact steady_none

end Pairs

end MessagePack

end EntityBase
