import Middleware.Proofs.Chain.Calls

namespace Middleware

/-!
# What the hooks of a chain receive

A chain hands each hook what it carries at that point. What it carries changes
only by the reply of a hook that lets it proceed, so the calls of a run tell
what every hook is given: the first one what the run was started with, and each
later one what its predecessor has made of it.
-/

variable {σ ν ι κ : Type}

namespace Chain

/--
Calls of hooks one after another, as far as they go. Each hook is handed what
the chain carries, and its reply decides what the next one is handed.
-/
inductive Hands (chain : Chain σ ν ι κ) :
    κ →
    List (Entry σ ν ι) →
    List (Call × Option Return) →
    Prop where
  | nothing
      (carried : κ)
      (entries : List (Entry σ ν ι)) :
      Hands chain carried entries []
  | last
      (carried : κ)
      (entry : Entry σ ν ι)
      (rest : List (Entry σ ν ι))
      (reply : Option Return) :
      Hands chain carried (entry :: rest) [(chain.callOf entry carried, reply)]
  | proceed
      {carried next : κ}
      {entry : Entry σ ν ι}
      {rest : List (Entry σ ν ι)}
      {answer : Answer}
      {calls : List (Call × Option Return)}
      (verdict : chain.verdict entry.middleware answer = .ok (.proceed next))
      (later : Hands chain next rest calls) :
      Hands chain carried (entry :: rest)
        ((chain.callOf entry carried, some (.ofAnswer answer)) :: calls)

/-- Where a chain carries nothing, its hooks are called in their order, all with one input. -/
theorem Hands.calls_isPrefix
    {chain : Chain σ ν ι Unit}
    {carried : Unit}
    {entries : List (Entry σ ν ι)}
    {calls : List (Call × Option Return)}
    (hands : chain.Hands carried entries calls) :
    calls.map Prod.fst <+: entries.map fun entry => chain.callOf entry () := by
  induction hands with
  | nothing carried entries =>
      exact List.nil_prefix
  | last carried entry rest reply =>
      exact List.prefix_append [_] _
  | proceed verdict later inductionHypothesis =>
      exact (List.prefix_cons_inj _).mpr inductionHypothesis

/-- Every run hands its hooks what it carries, and then it may call the transport. -/
theorem Course.exists_hands
    {chain : Chain σ ν ι κ}
    (state : σ)
    {transported : Option Request}
    (concludes : chain.ConcludesBy transported)
    {visited : List String}
    {carried : κ}
    {entries : List (Entry σ ν ι)}
    {signals : List (Signal ν)}
    {standing : Standing σ (Signal ν) (Except Failure Outcome)}
    (course : chain.Course visited carried entries signals standing) :
    ∃ hookCalls transportCalls,
      callsIn signals = hookCalls ++ transportCalls ∧
        chain.Hands carried entries hookCalls ∧
        transportCalls.map Prod.fst <+: (transported.map Call.transport).toList := by
  have hooksOnly :
      ∀ {calls : List (Call × Option Return)} {carried : κ} {entries : List (Entry σ ν ι)},
        chain.Hands carried entries calls →
          ∃ hookCalls transportCalls,
            calls = hookCalls ++ transportCalls ∧
              chain.Hands carried entries hookCalls ∧
              transportCalls.map Prod.fst <+: (transported.map Call.transport).toList := by
    intro calls carried entries hands
    exact ⟨calls, [], (List.append_nil calls).symm, hands, List.nil_prefix⟩
  induction course with
  | @conclude visited carried signals standing conclusion =>
      have calls := conclusion.callsIn_eq state concludes
      exact ⟨[], callsIn signals, rfl, .nothing carried [], calls ▸ List.prefix_rfl⟩
  | proceed verdict later inductionHypothesis =>
      obtain ⟨hookCalls, transportCalls, sameCalls, hands, transport⟩ := inductionHypothesis
      rw [callsIn_answered, sameCalls]
      exact ⟨_ :: hookCalls, transportCalls, rfl, .proceed verdict hands, transport⟩
  | settle verdict left =>
      rw [callsIn_answered]
      exact hooksOnly (.last _ _ _ _)
  | fail verdict left =>
      rw [callsIn_answered]
      exact hooksOnly (.last _ _ _ _)
  | panic message =>
      exact hooksOnly (.last _ _ _ none)
  | suspend abandon closes =>
      exact hooksOnly (.last _ _ _ none)

end Chain

end Middleware
