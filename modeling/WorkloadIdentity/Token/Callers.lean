/-
  WorkloadIdentity.Token.Callers ──── **MANY CALLERS AT ONE CACHE.**

  A caller who finds nothing usable waits for the lock; whoever holds the lock looks again before
  fetching.  The state says where every caller stands, so the suspension points are visible: a
  caller rests only while it waits for the lock or for the fetch it has begun.

  **RULE**: only the holder of the lock fetches, and the lock is free again in the same move in
  which the fetch is answered.

  ✓ `Callers.move?`  — one move, by anybody, at any moment
  ✓ `Callers.serve`  — the schedule first come, first served
-/
import WorkloadIdentity.Token.Cache

namespace WorkloadIdentity

/-! ## §1. Where callers stand. -/

/-- Where a caller stands. -/
inductive Phase where
  /-- It waits for the lock. -/
  | waiting (d : Demand)
  /-- It holds the lock and waits for its fetch. -/
  | fetching
  /-- It has its answer. -/
  | answered (outcome : Outcome)

/-- A cache with callers at it, numbered in the order in which they came. -/
structure Callers where
  /-- The cache. -/
  cache : TokenCache
  /-- Where each caller stands. -/
  phases : List Phase
  /-- Who holds the lock. -/
  holder : Option Nat

/-- A cache with nobody at it. -/
def Callers.nobody (c : TokenCache) : Callers := ⟨c, [], none⟩

/-- What a move leads to: the next state, and what is logged. -/
abbrev Callers.Step := Callers × List LogRecord

namespace Callers

/-! ## §2. Moves of callers. -/

/-- A new caller looks at the cache: it is answered at once, or waits. -/
def arrive (now : Int) (d : Demand) (s : Callers) : Step :=
  match d, s.cache.usable? now with
  | .current, some t =>
    ({ s with phases := s.phases ++ [.answered (.ok t)] }, [TokenCache.hitRecord])
  | _, _ => ({ s with phases := s.phases ++ [.waiting d] }, [])

/-- A waiting caller takes the free lock and looks again: it is answered, or begins a fetch. -/
def enter? (now : Int) (caller : Nat) (s : Callers) : Option Step :=
  match s.holder, s.phases[caller]? with
  | none, some (.waiting d) =>
    match d, s.cache.usable? now with
    | .current, some t =>
      some ({ s with phases := s.phases.set caller (.answered (.ok t)) }, [TokenCache.servedRecord])
    | _, _ =>
      some ({ s with phases := s.phases.set caller .fetching, holder := some caller },
        [TokenCache.fetchRecord])
  | _, _ => none

/-- The fetch that is under way is answered; its caller is too, and the lock is free. -/
def settle? (outcome : Outcome) (s : Callers) : Option Step :=
  match s.holder with
  | none => none
  | some caller =>
    some
      ({ cache := s.cache.settle outcome, phases := s.phases.set caller (.answered outcome),
         holder := none },
        [TokenCache.settleRecord outcome])

/-! ## §3. All moves. -/

/-- What can happen at a cache.  Times are the readings of the clock at that moment. -/
inductive Move where
  /-- A caller comes. -/
  | arrive (now : Int) (d : Demand)
  /-- A waiting caller takes the lock. -/
  | enter (now : Int) (caller : Nat)
  /-- The fetch that is under way is answered. -/
  | settle (outcome : Outcome)
  /-- A token is put in place from outside. -/
  | install (t : AccessToken)
  /-- Somebody subscribes. -/
  | subscribe
  /-- A subscriber asks for its next notice. -/
  | receive (subscriber : Nat)

/-- **One move**, unless it is not possible in this state. -/
def move? (s : Callers) : Move → Option Step
  | .arrive now d => some (s.arrive now d)
  | .enter now caller => s.enter? now caller
  | .settle outcome => s.settle? outcome
  | .install t => some ({ s with cache := s.cache.install t }, [])
  | .subscribe =>
    some ({ s with cache := { s.cache with feed := s.cache.feed.subscribe.2 } }, [])
  | .receive i =>
    some ({ s with cache := { s.cache with feed := (s.cache.feed.receive i).2 } }, [])

/-- The state after some moves, if all of them were possible. -/
def moves? (s : Callers) : List Move → Option Callers
  | [] => some s
  | m :: rest =>
    match s.move? m with
    | none => none
    | some step => step.1.moves? rest

/-! ## §4. First come, first served. -/

section Schedule

variable {σ : Type} (h : TokenHost σ)

/-- Log what a move says. -/
def noteAll (records : List LogRecord) (w : σ) : σ := records.foldl (fun w r => h.note r w) w

/-- Make a move if it is possible. -/
def make (s : Callers) (w : σ) : Option Step → Callers × σ
  | none => (s, w)
  | some (next, records) => (next, noteAll h records w)

/-- All callers come one after another; each takes the lock at once if it is free. -/
def gather : List Demand → Callers → σ → Callers × σ
  | [], s, w => (s, w)
  | d :: rest, s, w =>
    let caller := s.phases.length
    let (s, w) := make h s w (some (s.arrive (h.now w) d))
    let (s, w) := make h s w (s.enter? (h.now w) caller)
    gather rest s w

/-- Let the fetch that is under way come to its end. -/
def finish (s : Callers) (w : σ) : Callers × σ :=
  match s.holder with
  | none => (s, w)
  | some _ =>
    let (outcome, w) := h.fetch w
    make h s w (s.settle? outcome)

/-- Serve callers in their order: the fetch under way ends, then the next one takes the lock. -/
def drain : List Nat → Callers → σ → Callers × σ
  | [], s, w => finish h s w
  | caller :: rest, s, w =>
    let (s, w) := finish h s w
    let (s, w) := make h s w (s.enter? (h.now w) caller)
    drain rest s w

/-- The answers, in the order in which the callers came. -/
def answers (s : Callers) : List Outcome :=
  s.phases.filterMap fun
    | .answered outcome => some outcome
    | _ => none

/-- **What callers get who come together**, the cache afterwards, and the place from which tokens
were fetched. -/
def serve (demands : List Demand) (c : TokenCache) (w : σ) : List Outcome × TokenCache × σ :=
  let (s, w) := gather h demands (nobody c) w
  let (s, w) := drain h (List.range demands.length) s w
  (answers s, s.cache, w)

end Schedule

end Callers

end WorkloadIdentity
