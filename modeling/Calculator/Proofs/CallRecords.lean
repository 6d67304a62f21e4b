namespace Calculator

variable {σ τ ι ο : Type}

/-- Some calls in a row, each with its answer, and the state that they leave. -/
def recordCalls (call : σ → ι → ο × σ) (state : σ) : List ι → List (ι × ο) × σ
  | [] => ([], state)
  | first :: rest =>
    let (answer, next) := call state first
    let (records, last) := recordCalls call next rest
    ((first, answer) :: records, last)

/-- States that answer each call in the same way, and are left alike by it, answer all calls in the
same way. -/
theorem recordCalls_alike {alike : σ → τ → Prop} {call : σ → ι → ο × σ} {other : τ → ι → ο × τ}
    (step : ∀ state twin first, alike state twin →
      (call state first).1 = (other twin first).1 ∧
        alike (call state first).2 (other twin first).2)
    {state : σ} {twin : τ} (start : alike state twin) (calls : List ι) :
    (recordCalls call state calls).1 = (recordCalls other twin calls).1 ∧
      alike (recordCalls call state calls).2 (recordCalls other twin calls).2 := by
  induction calls generalizing state twin with
  | nil => exact ⟨rfl, start⟩
  | cons first rest ih =>
    obtain ⟨answer, next⟩ := step state twin first start
    obtain ⟨records, last⟩ := ih next
    simp only [recordCalls]
    exact ⟨by rw [answer, records], last⟩

end Calculator
