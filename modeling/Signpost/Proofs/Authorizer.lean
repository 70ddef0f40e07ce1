import Signpost.Authorizer

/-! Permissions by role only grow with the identity. -/

namespace Signpost

/-- The second identity has every role of the first one, and a user name if the first one has. -/
structure Identity.Within (identity richer : Identity) : Prop where
  roles : ∀ role ∈ identity.roles, role ∈ richer.roles
  user : identity.user.isSome = true → richer.user.isSome = true

namespace Identity.Within

variable {identity richer : Identity}

theorem hasRole (within : identity.Within richer) {role : String}
    (has : identity.hasRole role = true) : richer.hasRole role = true := by
  have member := List.contains_iff_mem.mp has
  exact List.contains_iff_mem.mpr (within.roles role member)

theorem isAuthenticated (within : identity.Within richer)
    (known : identity.isAuthenticated = true) : richer.isAuthenticated = true := by
  rcases Bool.or_eq_true_iff.mp known with named | roles
  · exact Bool.or_eq_true_iff.mpr (.inl (within.user named))
  · obtain ⟨role, member⟩ := List.isEmpty_eq_false_iff_exists_mem.mp (by simpa using roles)
    have kept : richer.roles.isEmpty = false :=
      List.isEmpty_eq_false_iff_exists_mem.mpr ⟨role, within.roles role member⟩
    exact Bool.or_eq_true_iff.mpr (.inr (by simp [kept]))

theorem grants (within : identity.Within richer) {predicate : String}
    (granted : Authorizer.grants predicate identity = true) :
    Authorizer.grants predicate richer = true := by
  unfold Authorizer.grants at granted ⊢
  dsimp only at granted ⊢
  split at granted
  next everyone => exact if_pos everyone
  next someone =>
    split at granted
    next signedIn =>
      rw [if_neg someone, if_pos signedIn]
      exact within.isAuthenticated granted
    next byRole =>
      rw [if_neg someone, if_neg byRole]
      obtain ⟨role, named, has⟩ := List.any_eq_true.mp granted
      exact List.any_eq_true.mpr ⟨role, named, within.hasRole has⟩

end Identity.Within

end Signpost
