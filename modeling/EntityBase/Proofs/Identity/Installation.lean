import EntityBase.Identity.Binding
import EntityBase.Proofs.Engine.Writes
import EntityBase.Proofs.Schema.Acceptance

namespace EntityBase

/-!
# Installing the identity types

There are two installations, one on a snapshot and one on the snapshot that an
engine has committed.  Only the two names matter to either: whatever else is
registered, the two declarations are accepted exactly when their names are free.
Both installations then agree, on success and on the error that is returned.

What they leave behind when they fail is another matter.  A snapshot is not
changed by a registration that is refused, whichever of the two it is.  An engine
commits each registration as it is made, so one whose schema has a type under
the second name alone is left with the first type and with another version.
-/

namespace Store

variable {store : Store} {type : EntityType}

theorem register_of_contains (taken : store.schema.contains type.name = true) :
    store.register type = .error (ErrorKind.schema (.duplicateEntityType type.name)) := by
  rw [register, (Schema.register_eq_error_iff _ _ _).mpr ⟨_, Schema.fault?_of_contains taken, rfl⟩]
  rfl

end Store

namespace Identity

variable {engine : Engine} {store : Store}

/-! ## The two registrations -/

theorem fault?_shared {schema : Schema} (fresh : schema.contains sharedType = false) :
    schema.fault? sharedDeclaration = none := by
  refine Schema.fault?_eq_none_of_shallow fresh (by decide) ?_ (List.forall_mem_nil _)
  intro declared member
  cases List.mem_singleton.mp member
  rfl

/-- The second declaration refers to the first, which has no references. -/
theorem fault?_local {schema next : Schema} (done : schema.register sharedDeclaration = .ok next)
    (fresh : schema.contains localType = false) : next.fault? localDeclaration = none := by
  have found : next.find? sharedType = some sharedDeclaration := by
    rw [Schema.find?_register done]
    rfl
  have known : next.contains sharedType = true := by rw [Schema.contains, found]; rfl
  have free : next.contains localDeclaration.name = false := by
    rw [Bool.eq_false_iff, Ne, Schema.contains_register done]
    rintro (present | same)
    · cases fresh.symm.trans present
    · exact absurd same (by decide)
  refine Schema.fault?_eq_none_of_shallow free (by decide) ?_ ?_
  · intro declared member
    rcases List.mem_pair.mp member with rfl | rfl
    · refine (Schema.attributeFault?_eq_none_iff next _ _).mpr ⟨by simp, by simp [Attribute.target?], ?_⟩
      exact fun target led => .inr (Option.some.inj led ▸ known)
    · rfl
  · intro target led
    cases List.mem_singleton.mp led
    exact ⟨by decide, by rw [Schema.cascadeTargets, found]; rfl⟩

/-! ## Every engine -/

theorem install_of_both_free
    (freeShared : engine.store.schema.contains sharedType = false)
    (freeLocal : engine.store.schema.contains localType = false) :
    ∃ store, install engine.store = .ok store ∧
      installInto engine = (.ok (), { engine with store, version := engine.version + 1 + 1 }) := by
  rcases Store.exists_register (fault?_shared freeShared) with ⟨half, first, registers⟩
  rcases Store.exists_register (fault?_local registers freeLocal) with ⟨store, second, -⟩
  refine ⟨store, by rw [install, first]; exact second, ?_⟩
  rw [installInto, Engine.register_of_accepted first]
  simp only
  rw [Engine.register_of_accepted second]

theorem install_of_shared_taken (taken : engine.store.schema.contains sharedType = true) :
    install engine.store = .error (ErrorKind.schema (.duplicateEntityType sharedType)) ∧
      installInto engine =
        (.error (ErrorKind.schema (.duplicateEntityType sharedType)), engine) := by
  have refused : engine.store.register sharedDeclaration = .error _ :=
    Store.register_of_contains taken
  refine ⟨by rw [install, refused]; rfl, ?_⟩
  rw [installInto, Engine.register_of_refused refused]
  rfl

/-- The snapshot with the first type is what the engine is left with. -/
theorem install_of_local_taken (free : engine.store.schema.contains sharedType = false)
    (taken : engine.store.schema.contains localType = true) :
    ∃ half, engine.store.register sharedDeclaration = .ok half ∧
      install engine.store = .error (ErrorKind.schema (.duplicateEntityType localType)) ∧
      installInto engine = (.error (ErrorKind.schema (.duplicateEntityType localType)),
        { engine with store := half, version := engine.version + 1 }) := by
  rcases Store.exists_register (fault?_shared free) with ⟨half, first, registers⟩
  have stays : half.schema.contains localType = true :=
    (Schema.contains_register registers localType).mpr (.inl taken)
  have refused : half.register localDeclaration = .error _ := Store.register_of_contains stays
  refine ⟨half, first, by rw [install, first]; exact refused, ?_⟩
  rw [installInto, Engine.register_of_accepted first]
  simp only
  rw [Engine.register_of_refused refused]
  rfl

/-- An engine's installation answers as the one on its snapshot does, and both
succeed exactly when the two names are free.  On success the engine has the
installed snapshot, two versions on.  A failure leaves the engine alone, unless
the first name was free and the second was not. -/
theorem installInto_agrees (engine : Engine) :
    (installInto engine).1 = (install engine.store).map (fun _ => ()) ∧
    ((∃ store, install engine.store = .ok store) ↔
      engine.store.schema.contains sharedType = false ∧
        engine.store.schema.contains localType = false) ∧
    (∀ store, install engine.store = .ok store →
      (installInto engine).2 = { engine with store, version := engine.version + 1 + 1 }) ∧
    (∀ error, install engine.store = .error error →
      (engine.store.schema.contains sharedType = true ∧
        error = ErrorKind.schema (.duplicateEntityType sharedType) ∧
        (installInto engine).2 = engine) ∨
      (engine.store.schema.contains sharedType = false ∧
        engine.store.schema.contains localType = true ∧
        error = ErrorKind.schema (.duplicateEntityType localType) ∧
        ∃ half, engine.store.register sharedDeclaration = .ok half ∧
          (installInto engine).2 = { engine with store := half, version := engine.version + 1 })) := by
  cases shared : engine.store.schema.contains sharedType with
  | true =>
      rcases install_of_shared_taken shared with ⟨onStore, onEngine⟩
      simp [onStore, onEngine, Except.map]
  | false =>
      cases bound : engine.store.schema.contains localType with
      | true =>
          rcases install_of_local_taken shared bound with ⟨half, first, onStore, onEngine⟩
          simp [onStore, onEngine, Except.map, first]
      | false =>
          rcases install_of_both_free shared bound with ⟨store, onStore, onEngine⟩
          simp [onStore, onEngine, Except.map]

namespace Sample

/-- An engine on which a host has declared a type of its own under the second
name. -/
def squatted : Engine :=
  let engine : Engine := { store := (Store.new ∅).1 }
  match engine.register { name := localType } with
  | .error _ => engine
  | .ok (_, engine) => engine

end Sample

/-- The installation is refused, and the engine has the first type all the same
and another version. -/
theorem installInto_leaves_half :
    install Sample.squatted.store =
      .error (ErrorKind.schema (.duplicateEntityType localType)) ∧
    (installInto Sample.squatted).1 =
      .error (ErrorKind.schema (.duplicateEntityType localType)) ∧
    Sample.squatted.version = 1 ∧ (installInto Sample.squatted).2.version = 2 ∧
    Sample.squatted.store.schema.types.map (·.name) = [localType] ∧
    (installInto Sample.squatted).2.store.schema.types.map (·.name) = [localType, sharedType] := by
  have free : Sample.squatted.store.schema.contains sharedType = false := by cbv
  have taken : Sample.squatted.store.schema.contains localType = true := by cbv
  have version : Sample.squatted.version = 1 := by cbv
  have types : Sample.squatted.store.schema.types.map (·.name) = [localType] := by cbv
  rcases install_of_local_taken free taken with ⟨half, first, onStore, onEngine⟩
  have declared : half.schema.types.map (·.name) = [localType, sharedType] := by
    rcases Store.exists_register (fault?_shared free) with ⟨next, same, registers⟩
    cases Except.ok.inj (first.symm.trans same)
    rw [((Schema.register_eq_ok_iff _ _ _).mp registers).2, List.map_append, types]
    rfl
  rw [onEngine]
  exact ⟨onStore, rfl, version, congrArg (· + 1) version, types, declared⟩

end Identity

end EntityBase
