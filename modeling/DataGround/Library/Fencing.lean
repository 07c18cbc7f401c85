import Mathlib.Data.List.Pairwise
import Mathlib.Order.Basic
import DataGround.Library.Run

/-!
# Fenced registers

A register whose value may be replaced only by the holder of its latest grant.  A *grant* gives
the register to an owner under the next token and reports the current value; a *commit* replaces
the value, names the grant it acts for, and ends it; a *touch* names its grant but changes
nothing; a *revocation* replaces the value from outside and ends whatever grant is out, without
using up a token.

The point of the construction is what it says about whole runs:

* `grantTokens_pairwise_lt` -- tokens are handed out in strictly increasing order;
* `commit_after_grant` -- between a commit and the grant it acts for there are only touches, so
  nothing was granted, committed or revoked in between, and the value is still the one that was
  granted;
* `commitTokens_nodup` -- a grant is committed at most once.
-/

namespace Fencing

/-- A register: the latest token, the owner whose grant is still out, and the value. -/
structure Register (Ω α : Type*) where
  /-- The token of the latest grant. -/
  token : ℕ
  /-- The owner of that grant, while it is neither committed nor revoked. -/
  holder : Option Ω
  /-- The guarded value. -/
  value : α

/-- What happens to a register. -/
inductive Action (Ω α : Type*) where
  /-- `owner` is given the register under `token` and told its `value`. -/
  | grant (owner : Ω) (token : ℕ) (value : α)
  /-- The holder of the grant `(owner, token)` writes `value` and gives the register back. -/
  | commit (owner : Ω) (token : ℕ) (value : α)
  /-- The holder of the grant `(owner, token)` makes itself known. -/
  | touch (owner : Ω) (token : ℕ)
  /-- Somebody else writes `value` and ends the grant that is out. -/
  | revoke (value : α)

variable {Ω α : Type*} [DecidableEq Ω] [DecidableEq α]

/-- The guarded step of a register. -/
def step (r : Register Ω α) : Action Ω α → Option (Register Ω α)
  | .grant owner token value =>
    if token = r.token + 1 ∧ value = r.value then some ⟨token, some owner, value⟩ else none
  | .commit owner token value =>
    if r.holder = some owner ∧ r.token = token then some ⟨token, none, value⟩ else none
  | .touch owner token => if r.holder = some owner ∧ r.token = token then some r else none
  | .revoke value => some ⟨r.token, none, value⟩

/-- The tokens of the grants of a list of actions, in order. -/
def grantTokens : List (Action Ω α) → List ℕ
  | [] => []
  | .grant _ token _ :: as => token :: grantTokens as
  | .commit _ _ _ :: as => grantTokens as
  | .touch _ _ :: as => grantTokens as
  | .revoke _ :: as => grantTokens as

/-- The tokens of the commits of a list of actions, in order. -/
def commitTokens : List (Action Ω α) → List ℕ
  | [] => []
  | .grant _ _ _ :: as => commitTokens as
  | .commit _ token _ :: as => token :: commitTokens as
  | .touch _ _ :: as => commitTokens as
  | .revoke _ :: as => commitTokens as

/-- The actions that name a grant without changing the register. -/
def Action.IsTouch : Action Ω α → Prop
  | .touch _ _ => True
  | _ => False

/-! ### What one action does -/

variable {r t : Register Ω α} {owner : Ω} {token : ℕ} {value : α}

lemma step_grant (h : step r (.grant owner token value) = some t) :
    token = r.token + 1 ∧ value = r.value ∧ t = ⟨token, some owner, value⟩ := by
  simp only [step, Option.ite_none_right_eq_some, Option.some.injEq] at h
  exact ⟨h.1.1, h.1.2, h.2.symm⟩

lemma step_commit (h : step r (.commit owner token value) = some t) :
    r.holder = some owner ∧ r.token = token ∧ t = ⟨token, none, value⟩ := by
  simp only [step, Option.ite_none_right_eq_some, Option.some.injEq] at h
  exact ⟨h.1.1, h.1.2, h.2.symm⟩

lemma step_touch (h : step r (.touch owner token) = some t) :
    r.holder = some owner ∧ r.token = token ∧ t = r := by
  simp only [step, Option.ite_none_right_eq_some, Option.some.injEq] at h
  exact ⟨h.1.1, h.1.2, h.2.symm⟩

lemma step_revoke (h : step r (.revoke value) = some t) : t = ⟨r.token, none, value⟩ :=
  (Option.some.inj h).symm

/-! ### Tokens over a run -/

variable {as : List (Action Ω α)}

/-- Every grant of a run uses a token above the one the run started with. -/
lemma lt_of_mem_grantTokens (h : Run.run step r as = some t) : ∀ k ∈ grantTokens as, r.token < k := by
  induction as generalizing r with
  | nil =>
    simp [grantTokens]
  | cons a _ ih =>
    obtain ⟨_, hm, hrest⟩ := Run.run_cons_eq_some h
    have hlater := ih hrest
    cases a with
    | grant =>
      obtain ⟨htoken, -, rfl⟩ := step_grant hm
      intro k hk
      rcases List.mem_cons.mp hk with rfl | hk
      · omega
      · have := hlater k hk
        simp only at this
        omega
    | commit =>
      obtain ⟨-, htoken, rfl⟩ := step_commit hm
      intro k hk
      exact htoken ▸ hlater k hk
    | touch =>
      obtain ⟨-, -, rfl⟩ := step_touch hm
      exact hlater
    | revoke =>
      obtain rfl := step_revoke hm
      exact hlater

/-- **Tokens are handed out in strictly increasing order.** -/
theorem grantTokens_pairwise_lt (h : Run.run step r as = some t) : (grantTokens as).Pairwise (· < ·) := by
  induction as generalizing r with
  | nil =>
    exact List.Pairwise.nil
  | cons a _ ih =>
    obtain ⟨_, hm, hrest⟩ := Run.run_cons_eq_some h
    cases a with
    | grant =>
      obtain ⟨-, -, rfl⟩ := step_grant hm
      exact List.Pairwise.cons (lt_of_mem_grantTokens hrest) (ih hrest)
    | commit | touch | revoke => exact ih hrest

/-! ### At most one commit per grant -/

/-- The token of the grant that is out, if one is. -/
def outstanding (r : Register Ω α) : List ℕ :=
  (r.holder.map fun _ => r.token).toList

/-- The commits of a run use up its grants in order, each at most once; one more may act for the
grant that was out when the run began. -/
lemma commitTokens_sublist (h : Run.run step r as = some t) :
    (commitTokens as).Sublist (outstanding r ++ grantTokens as) := by
  induction as generalizing r with
  | nil =>
    exact List.nil_sublist _
  | cons a _ ih =>
    obtain ⟨_, hm, hrest⟩ := Run.run_cons_eq_some h
    have hlater := ih hrest
    cases a with
    | grant =>
      obtain ⟨-, -, rfl⟩ := step_grant hm
      exact hlater.trans (List.sublist_append_right _ _)
    | commit _ token =>
      obtain ⟨hholder, htoken, rfl⟩ := step_commit hm
      have hout : outstanding r = [token] := by simp [outstanding, hholder, htoken]
      rw [hout]
      exact hlater.cons_cons token
    | touch =>
      obtain ⟨-, -, rfl⟩ := step_touch hm
      exact hlater
    | revoke =>
      obtain rfl := step_revoke hm
      exact hlater.trans (List.sublist_append_right _ _)

/-- **A grant is committed at most once**: over a run that starts free, no token commits twice. -/
theorem commitTokens_nodup (hr : r.holder = none) (h : Run.run step r as = some t) :
    (commitTokens as).Nodup := by
  have hsub := commitTokens_sublist h
  simp only [outstanding, hr, Option.map_none, Option.toList_none, List.nil_append] at hsub
  have hnodup : (grantTokens as).Nodup := (grantTokens_pairwise_lt h).imp Nat.ne_of_lt
  exact hsub.nodup hnodup

/-! ### The grant behind a holder -/

/-- A register that started free is held only after the grant to its holder, with nothing but
touches since, and its value is the one that was granted. -/
lemma held_after_grant (hr : r.holder = none) (h : Run.run step r as = some t)
    (ht : t.holder = some owner) :
    ∃ before touches, as = before ++ .grant owner t.token t.value :: touches ∧
      ∀ a ∈ touches, a.IsTouch := by
  induction as using List.reverseRecOn generalizing t with
  | nil =>
    cases h
    rw [hr] at ht
    cases ht
  | append_singleton as a ih =>
    obtain ⟨_, hm, ha⟩ := Run.run_concat_eq_some h
    cases a with
    | grant =>
      obtain ⟨-, -, rfl⟩ := step_grant ha
      cases ht
      exact ⟨as, [], rfl, by simp⟩
    | commit =>
      obtain ⟨-, -, rfl⟩ := step_commit ha
      cases ht
    | touch owner' token =>
      obtain ⟨-, -, rfl⟩ := step_touch ha
      obtain ⟨before, touches, rfl, htouches⟩ := ih hm ht
      refine ⟨before, touches ++ [.touch owner' token], by simp, ?_⟩
      intro a ha
      rcases List.mem_append.mp ha with ha | ha
      · exact htouches a ha
      · obtain rfl := List.mem_singleton.mp ha
        trivial
    | revoke =>
      obtain rfl := step_revoke ha
      cases ht

/-- **A commit follows its grant with nothing but touches in between.**  When `(owner, token)`
commits, the last thing that happened to the register other than touches is the grant of `token`
to `owner`, and the register still has the value that grant reported. -/
theorem commit_after_grant {r t m : Register Ω α} (hr : r.holder = none)
    (has : Run.run step r as = some m) (h : step m (.commit owner token value) = some t) :
    ∃ before touches, as = before ++ .grant owner token m.value :: touches ∧
      ∀ a ∈ touches, a.IsTouch := by
  obtain ⟨hholder, rfl, -⟩ := step_commit h
  exact held_after_grant hr has hholder

end Fencing
