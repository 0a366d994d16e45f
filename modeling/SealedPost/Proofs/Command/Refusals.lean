import SealedPost.Command.Outcome
import SealedPost.Proofs.Correspondence.Refusals

/-!
# How the command that composes fails

The command fails exactly as the composition does, always with the same exit status. A key that
cannot be taken is reported; a refused key agreement is not foreseen, although the keys that bring
it about have the right length.
-/

namespace SealedPost

namespace Command

open Correspondence

/-- The command that composes fails for the reasons for which the composition fails. -/
theorem compose_eq_error_iff {o : ComposeOptions} {entropy : Entropy} {failure : Failure} :
    compose o entropy = .error failure ↔ ∃ fault, failure = .read (.box fault) ∧
      Refusal (.bytes o.secretKey) (o.recipients.map Material.bytes) none entropy fault := by
  have hrefusal (fault : BoxFault) :
      Correspondence.compose o.origin (.bytes o.secretKey) (o.recipients.map Material.bytes)
          o.message none entropy = .error fault ↔
        Refusal (.bytes o.secretKey) (o.recipients.map Material.bytes) none entropy fault :=
    Correspondence.compose_eq_error_iff
  simp only [← hrefusal]
  unfold compose
  split
  · next fault h => simp [h, eq_comm]
  · next h => simp [h]

/-- Composing, as a function and as a command, fails exactly in the ways listed: the own key, a key
of a recipient or a given nonce cannot be taken, or the agreement of the relay key with a party or
of the sender with a recipient is refused. Only the last is not foreseen. -/
theorem composing_fails_unforeseen_iff (origin : Bytes) (own : Material)
    (recipients : List Material) (message : Message) (publicNonce : Option Material)
    (entropy : Entropy) (fault : BoxFault) (o : ComposeOptions) (failure : Failure) :
    (Correspondence.compose origin own recipients message publicNonce entropy = .error fault ↔
      Refusal own recipients publicNonce entropy fault) ∧
    ((Correspondence.compose origin own recipients message publicNonce entropy = .error fault ∧
        fault.isDeclared = false) ↔
      fault = .agreementRefused ∧ Unagreed own recipients publicNonce entropy) ∧
    (compose o entropy = .error failure ↔ ∃ refusal, failure = .read (.box refusal) ∧
      Refusal (.bytes o.secretKey) (o.recipients.map Material.bytes) none entropy refusal) ∧
    ((compose o entropy = .error failure ∧ failure.isDeclared = false) ↔
      failure = .read (.box .agreementRefused) ∧
        Unagreed (.bytes o.secretKey) (o.recipients.map Material.bytes) none entropy) ∧
    (compose o entropy = .error failure → failure.status = 1) := by
  refine ⟨Correspondence.compose_eq_error_iff, ?_, compose_eq_error_iff, ?_, ?_⟩
  · rw [Correspondence.compose_eq_error_iff]
    exact refusal_undeclared_iff
  · rw [compose_eq_error_iff]
    constructor
    · rintro ⟨⟨refusal, rfl, hrefusal⟩, hundeclared⟩
      obtain ⟨rfl, h⟩ := refusal_undeclared_iff.mp ⟨hrefusal, hundeclared⟩
      exact ⟨rfl, h⟩
    · rintro ⟨rfl, h⟩
      exact ⟨⟨_, rfl, .agreement h⟩, rfl⟩
  · intro h
    obtain ⟨refusal, rfl, -⟩ := compose_eq_error_iff.mp h
    rfl

/-- A message for the key of zeros. -/
def barrenOptions : ComposeOptions where
  origin := [4]
  secretKey := List.replicate 32 7
  recipients := [List.replicate 32 0]
  entries := [([1, 2], [3])]
  kind := .text

/-- So keys of the right length do not make a composition fail as foreseen, if it fails. -/
theorem not_only_declared_refusals :
    (¬ ∀ (origin secretKey : Bytes) (recipients : List Bytes) (message : Message)
        (publicNonce : Option Bytes) (entropy : Entropy) (fault : BoxFault),
      Correspondence.compose origin (.bytes secretKey) (recipients.map Material.bytes) message
        (publicNonce.map Material.bytes) entropy = .error fault → fault.isDeclared = true) ∧
    ¬ ∀ (o : ComposeOptions) (entropy : Entropy) (failure : Failure),
      compose o entropy = .error failure → failure.isDeclared = true := by
  let key : SecretKey := ⟨List.replicate 32 7, List.length_replicate⟩
  let recipient : PublicKey := ⟨List.replicate 32 0, List.length_replicate⟩
  have hown : (Material.bytes barrenOptions.secretKey).asSecretKey = .ok key :=
    Material.asSecretKey_eq_ok_iff.mpr rfl
  have hkeys : (barrenOptions.recipients.map Material.bytes).mapM Material.asPublicKey =
      .ok [recipient] :=
    Attempt.mapM_eq_ok_iff.mpr (.cons (Material.asPublicKey_eq_ok_iff.mpr rfl) .nil)
  have hfails : Correspondence.compose barrenOptions.origin (.bytes barrenOptions.secretKey)
      (barrenOptions.recipients.map Material.bytes) barrenOptions.message none ⟨[]⟩ =
        .error .agreementRefused :=
    compose_of_coordinate hown hkeys List.mem_cons_self (by decide) _ _ _
  constructor
  · intro h
    exact absurd (h _ _ _ _ none _ _ hfails) Bool.noConfusion
  · intro h
    have hcommand : compose barrenOptions ⟨[]⟩ = .error (.read (.box .agreementRefused)) := by
      rw [compose, hfails]
    exact absurd (h _ _ _ hcommand) Bool.noConfusion

end Command
end SealedPost
