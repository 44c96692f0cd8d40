import WorkloadIdentity.Proofs.Certificate.Authentication
import WorkloadIdentity.Proofs.Pem

/-!
The certificates that a client shows. A certificate is read from the delivered bytes, but the client
takes its certificates from the text that was kept of them, which need not be the same bytes. The
text has the same certificates in the same order.
-/

namespace WorkloadIdentity

open Utf8

namespace Certificate

variable {text : Bytes}

theorem itemsOf_mend {items : List PemItem} (h : itemsOf text = .ok items) :
    itemsOf (mend text) = .ok items := by
  have hreads : Pem.Reads ⟨none, []⟩ (Pem.lines text) items := Pem.reads_of_sections h
  have hmended := Pem.sections_of_reads (Pem.Mends.closed.reads hreads)
  rwa [← Pem.lines_mend] at hmended

/-- A text that can be read has the same certificates when it is mended. -/
theorem chain_mend {certificates : List Bytes} (h : chain text = .ok certificates) :
    chain (mend text) = .ok certificates := by
  unfold chain at h ⊢
  cases hitems : itemsOf text with
  | error fault =>
      rw [hitems] at h
      cases h
  | ok items =>
      rw [itemsOf_mend hitems]
      rwa [hitems] at h

end Certificate

namespace ClientCertificate

variable {delivered : Bytes} {c : ClientCertificate}

theorem chain_of_ofText (h : ofText delivered = .ok c) :
    ∃ chain, Certificate.chain delivered = .ok chain ∧ c.text = toStringLossy delivered := by
  unfold ofText at h
  cases hchain : Certificate.chain delivered with
  | error fault =>
      rw [hchain] at h
      cases h
  | ok chain =>
      refine ⟨chain, rfl, ?_⟩
      rw [hchain] at h
      cases chain with
      | nil => cases h
      | cons first others =>
          cases hread : Certificate.certificate.run first with
          | none =>
              simp only [bind, Except.bind, hread] at h
              cases h
          | some found =>
              simp only [bind, Except.bind, hread] at h
              cases h
              rfl

/-- Whatever bytes a certificate is read from, the text that is kept of it has the certificates of
these bytes in their order, none more and none less, and they are what a client made from the text
shows. -/
theorem kept_text_has_delivered_chain (connector : Connector) (key : SigningKey)
    (h : ofText delivered = .ok c) :
    ∃ chain, Certificate.chain delivered = .ok chain ∧
      Certificate.chain (ofString c.text) = .ok chain ∧
      connector.mutualClient (ofString c.text) key =
        .ok { connector.client with shows := some (chain, key) } := by
  obtain ⟨chain, hchain, htext⟩ := chain_of_ofText h
  have hkept : Certificate.chain (ofString c.text) = .ok chain := by
    rw [htext, ofString_toStringLossy]
    exact Certificate.chain_mend hchain
  refine ⟨chain, hchain, hkept, ?_⟩
  rw [Connector.mutualClient, hkept]
  rfl

/-- A certificate behind a section whose label is one byte that is no text. The section has a line
in it that differs from its end in that byte alone, so it ends there in the kept text. -/
def annotated : Bytes :=
  ofString "-----BEGIN " ++ 0xFF :: ofString "-----\n-----END " ++ 0xFE ::
    ofString "-----\n-----END " ++ 0xFF :: ofString "-----\n" ++
      CertificateAuthenticator.Sample.certificate ++ [0xC3]

theorem kept_text_has_delivered_chain_annotated :
    let a := CertificateAuthenticator.Sample.authenticator
    ∃ c chain, ofText annotated = .ok c ∧ ofString c.text ≠ annotated ∧
      Certificate.chain annotated = .ok chain ∧ chain.length = 1 ∧
      Certificate.chain (ofString c.text) = .ok chain ∧
      a.connector.mutualClient (ofString c.text) a.key.signing =
        .ok { a.connector.client with shows := some (chain, a.key.signing) } := by
  intro a
  have hok : (ofText annotated).isOk = true := by decide +kernel
  cases hread : ofText annotated with
  | error fault =>
      rw [hread] at hok
      cases hok
  | ok c =>
      obtain ⟨chain, hchain, hkept, hclient⟩ :=
        kept_text_has_delivered_chain a.connector a.key.signing hread
      have hone : (Certificate.chain annotated).toOption.map List.length = some 1 := by
        decide +kernel
      rw [hchain] at hone
      obtain ⟨_, _, htext⟩ := chain_of_ofText hread
      refine ⟨c, chain, rfl, ?_, hchain, Option.some.inj hone, hkept, hclient⟩
      rw [htext, ofString_toStringLossy]
      decide +kernel

end ClientCertificate

end WorkloadIdentity
