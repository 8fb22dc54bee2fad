import PathSeal.Kms.Backends

/-!
# PathSeal.Proofs.Kms.Backends

Where the calls of a deployment go: to the service of the handle's scheme, or to none if
that service is not configured.
-/

namespace PathSeal.Kms.Backends

variable {b : Backends σ τ} {key : Key.Handle}

section

variable {service : Wrapper (Remote σ τ)} (h : b.find? key.scheme = some service)

include h

/-- A call to wrap goes to the service of the scheme. -/
theorem wrap_of_find? (dek : Bytes) : b.wrapper.wrap key dek = service.wrap key dek := by
  simp only [wrapper, h]

/-- A call to unwrap goes there, too. -/
theorem unwrap_of_find? (wrapped : Key.Wrapped) :
    b.wrapper.unwrap key wrapped = service.unwrap key wrapped := by
  simp only [wrapper, h]

end

/-- Without that service no key is wrapped. -/
theorem wrap_of_missing (h : b.find? key.scheme = none) (dek : Bytes) (w : World (Remote σ τ)) :
    b.wrapper.wrap key dek w = (.now (.error (missing key)), w) := by
  simp only [wrapper, h]
  rfl

end PathSeal.Kms.Backends
