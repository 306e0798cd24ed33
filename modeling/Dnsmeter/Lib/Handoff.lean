/-!
# A buffer that two parties hand to each other

A producer and a consumer share a buffer and have a generation each. While the two agree the buffer
is the producer's: it writes, and hands over with a new generation. While they differ it is the
consumer's: it reads, and hands back by taking over the producer's generation. Nothing is assumed of
the generations but that a new one differs from the one before, so they may wrap around.

`Conserved` keeps account of what was handed over and what was taken. Each move of either party keeps
it (`write`, `handOver`, `take`).
-/

namespace Handoff

variable {γ β : Type}

/-- What was handed over was taken, in this order, or is what the buffer holds. -/
inductive Conserved (produced consumed : γ) (content : β) : List β → List β → Prop
  | empty (h : consumed = produced) (taken : List β) : Conserved produced consumed content taken taken
  | full (h : consumed ≠ produced) (taken : List β) :
      Conserved produced consumed content (taken ++ [content]) taken

namespace Conserved

variable {produced consumed : γ} {content : β} {handed taken : List β}

/-- The producer writes into its buffer. -/
theorem write (h : Conserved produced consumed content handed taken) (howner : consumed = produced)
    (content' : β) : Conserved produced consumed content' handed taken := by
  cases h with
  | empty => exact .empty howner handed
  | full hne => exact absurd howner hne

/-- The producer hands over what the buffer holds. -/
theorem handOver (h : Conserved produced consumed content handed taken) (howner : consumed = produced)
    {produced' : γ} (hnew : produced' ≠ produced) :
    Conserved produced' consumed content (handed ++ [content]) taken := by
  cases h with
  | empty =>
    refine .full ?_ handed
    rintro rfl
    exact hnew howner
  | full hne => exact absurd howner hne

/-- The consumer hands back what it has read. -/
theorem take (h : Conserved produced consumed content handed taken) (howner : consumed ≠ produced) :
    Conserved produced produced content handed (taken ++ [content]) := by
  cases h with
  | empty heq => exact absurd heq howner
  | full => exact .empty rfl (taken ++ [content])

/-- At most one is on its way. -/
theorem exists_pending (h : Conserved produced consumed content handed taken) :
    ∃ pending, handed = taken ++ pending ∧ pending.length ≤ 1 ∧ ∀ x ∈ pending, x = content := by
  cases h with
  | empty => exact ⟨[], (List.append_nil handed).symm, Nat.zero_le 1, nofun⟩
  | full => exact ⟨[content], rfl, Nat.le_refl 1, fun x hx => List.mem_singleton.1 hx⟩

end Conserved

end Handoff
