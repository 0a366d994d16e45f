import SealedPost.Token.Compact

/-!
# What is signed determines the token

The signed text is the header and the payload with a point between them, and neither has a
point of its own. So two tokens with one signed text have one header and one payload, and
differ in their signatures at most.
-/

namespace SealedPost

/-- No piece between separators holds a separator. -/
theorem Text.not_mem_of_mem_splitOn {sep : CodePoint} {t piece : Text}
    (h : piece ∈ splitOn sep t) : sep ∉ piece := by
  induction t generalizing piece with
  | nil =>
      rw [splitOn, List.mem_singleton] at h
      rw [h]
      exact List.not_mem_nil
  | cons c rest ih =>
      rw [splitOn] at h
      split at h
      · rcases List.mem_cons.mp h with rfl | hrest
        · exact List.not_mem_nil
        · exact ih hrest
      · rename_i hc
        split at h
        · rename_i hnone
          rw [List.mem_singleton] at h
          rw [h, List.mem_singleton]
          exact Ne.symm hc
        · rename_i first pieces hsome
          rcases List.mem_cons.mp h with rfl | hrest
          · rw [List.mem_cons, not_or]
            exact ⟨Ne.symm hc, ih (hsome ▸ List.mem_cons_self)⟩
          · exact ih (hsome ▸ List.mem_cons_of_mem _ hrest)

namespace Token

/-- Segments without points can be told from their joined text. -/
theorem joinSegments_inj {header payload header' payload' : Text}
    (hh : CodePoint.char '.' ∉ header) (hp : CodePoint.char '.' ∉ payload)
    (hh' : CodePoint.char '.' ∉ header') (hp' : CodePoint.char '.' ∉ payload')
    (h : joinSegments header payload = joinSegments header' payload') :
    header = header' ∧ payload = payload' := by
  have hsplit : [header, payload] = [header', payload'] := by
    rw [← Text.splitOn_of_not_mem hp, ← Text.splitOn_of_not_mem hp',
      ← Text.splitOn_append_cons payload hh, ← Text.splitOn_append_cons payload' hh']
    exact congrArg _ h
  cases hsplit
  exact ⟨rfl, rfl⟩

namespace Compact

/-- A text is a token if it has three segments, of which the first two are objects. -/
theorem parse_eq_ok_iff {t : Text} {token : Compact} :
    parse t = .ok token ↔ ∃ header payload signature,
      Text.splitOn (.char '.') t = [header, payload, signature] ∧
        readObject? header = some token.header ∧ readObject? payload = some token.payload ∧
        Base64.decodeUrl signature = .ok token.signature ∧
        token.signingInput = joinSegments header payload := by
  constructor
  · intro h
    unfold parse at h
    split at h
    · rename_i header payload signature hsplit
      split at h
      · rename_i hheader hpayload hsignature
        cases h
        exact ⟨header, payload, signature, hsplit, hheader, hpayload, hsignature, rfl⟩
      · cases h
    · cases h
  · rintro ⟨header, payload, signature, hsplit, hheader, hpayload, hsignature, hinput⟩
    simp only [parse, hsplit, hheader, hpayload, hsignature, ← hinput]

theorem eq_of_signingInput_eq {t t' : Text} {token token' : Compact} (h : parse t = .ok token)
    (h' : parse t' = .ok token') (hinput : token.signingInput = token'.signingInput) :
    token.header = token'.header ∧ token.payload = token'.payload := by
  obtain ⟨header, payload, signature, hsplit, hheader, hpayload, -, hjoin⟩ :=
    parse_eq_ok_iff.mp h
  obtain ⟨header', payload', signature', hsplit', hheader', hpayload', -, hjoin'⟩ :=
    parse_eq_ok_iff.mp h'
  have hpieces : ∀ piece ∈ [header, payload, signature], CodePoint.char '.' ∉ piece :=
    fun piece hpiece => Text.not_mem_of_mem_splitOn (hsplit ▸ hpiece)
  have hpieces' : ∀ piece ∈ [header', payload', signature'], CodePoint.char '.' ∉ piece :=
    fun piece hpiece => Text.not_mem_of_mem_splitOn (hsplit' ▸ hpiece)
  obtain ⟨rfl, rfl⟩ := joinSegments_inj (hpieces header (by simp)) (hpieces payload (by simp))
    (hpieces' header' (by simp)) (hpieces' payload' (by simp))
    (hjoin.symm.trans (hinput.trans hjoin'))
  exact ⟨Option.some.inj (hheader.symm.trans hheader'),
    Option.some.inj (hpayload.symm.trans hpayload')⟩

end Compact
end Token
end SealedPost
