/-
  WorkloadIdentity.Proofs.Cache.Notices ──── **WHAT SUBSCRIBERS LEARN OF A RUN.**

  Every fetch that succeeds is announced once, and nothing else is.  A subscriber is compared with
  one whose mailbox has no bound: each notice is put into the mailbox when it is published, and
  each time the subscriber asks, it gets what is due there.  Items leave the mailbox unseen only
  when it holds more than the feed keeps, and then they are the oldest ones, and counted.

  Main results:
    * `Feed.receive_eq` — the feed with its cursors delivers what is due from the mailbox
    * `Mailbox.accounts` — what was delivered accounts for what has left the mailbox
    * `Timeline.notices_eq` — the notices of a run are those of its successful fetches
    * `Timeline.notices_reach_subscribers` — all of it, for every subscriber of every run
-/
import WorkloadIdentity.Proofs.Cache.Fetches

namespace WorkloadIdentity

/-! ## §1. What a feed holds. -/

section Feeds

variable {α : Type}

/-- A feed on which a list of items was published, the oldest first. -/
structure Feed.Holds (f : Feed α) (log : List α) : Prop where
  /-- All were counted. -/
  published : f.published = log.length
  /-- The last ones are kept. -/
  kept : f.kept = log.reverse.take Feed.capacity

theorem Feed.holds_empty : (Feed.empty : Feed α).Holds [] := ⟨rfl, rfl⟩

theorem Feed.Holds.publish {f : Feed α} {log : List α} (h : f.Holds log) (x : α) :
    (f.publish x).Holds (log ++ [x]) := by
  constructor
  · show f.published + 1 = _
    rw [h.published, List.length_append]
    rfl
  · show (x :: f.kept).take Feed.capacity = _
    rw [h.kept, List.reverse_append]
    -- of the items that were kept the oldest may go now
    show (x :: log.reverse.take 16).take 16 = (x :: log.reverse).take 16
    rw [List.take_succ_cons, List.take_succ_cons, List.take_take]
    rfl

/-- The oldest item that is kept is at most a full feed away from the newest. -/
theorem Feed.Holds.oldest {f : Feed α} {log : List α} (h : f.Holds log) :
    f.oldest = log.length - Feed.capacity := by
  unfold Feed.oldest
  rw [h.published, h.kept, List.length_take, List.length_reverse]
  omega

/-- An item that is not older than the oldest one kept is found under its number. -/
theorem Feed.Holds.lookup {f : Feed α} {log : List α} (h : f.Holds log) {n : Nat}
    (recent : f.oldest ≤ n) (below : n < log.length) :
    f.kept[f.published - 1 - n]? = log[n]? := by
  rw [h.oldest] at recent
  have near : log.length - 1 - n < Feed.capacity := by
    unfold Feed.capacity at recent ⊢
    omega
  have within : log.length - 1 - n < log.length := by omega
  have turned : log.length - 1 - (log.length - 1 - n) = n := by omega
  rw [h.published, h.kept, List.getElem?_take_of_lt near, List.getElem?_reverse within, turned]

/-! ## §2. A mailbox without bounds. -/

/-- What is due to a subscriber who has not read some items: the oldest, if the feed keeps them
all, and otherwise how many it does not keep. -/
def Delivery.due (unread : List α) : Delivery α :=
  match unread with
  | [] => .nothing
  | x :: rest =>
    if rest.length < Feed.capacity then .item x
    else .lagged (rest.length + 1 - Feed.capacity)

/-- How many items a delivery is about. -/
def Delivery.weight : Delivery α → Nat
  | .item _ => 1
  | .nothing => 0
  | .lagged n => n

theorem Delivery.weight_due_le (unread : List α) : (Delivery.due unread).weight ≤ unread.length := by
  unfold Delivery.due
  cases unread with
  | nil => exact Nat.le_refl 0
  | cons x rest =>
    dsimp only
    split
    · show 1 ≤ rest.length + 1
      omega
    · show rest.length + 1 - Feed.capacity ≤ rest.length + 1
      omega

/-- **A mailbox in the course of time**: what was delivered from it, what was put into it, and what
is still there. -/
inductive Mailbox : List (Delivery α) → List α → List α → Prop where
  /-- A new mailbox. -/
  | new : Mailbox [] [] []
  /-- An item is put into it. -/
  | post {ds : List (Delivery α)} {posted unread : List α} (x : α)
      (so : Mailbox ds posted unread) : Mailbox ds (posted ++ [x]) (unread ++ [x])
  /-- It is empty, and the subscriber is told so. -/
  | empty {ds : List (Delivery α)} {posted : List α} (so : Mailbox ds posted []) :
      Mailbox (ds ++ [.nothing]) posted []
  /-- It holds no more than the feed keeps, and the subscriber gets the oldest item. -/
  | take {ds : List (Delivery α)} {posted rest : List α} {x : α}
      (so : Mailbox ds posted (x :: rest)) (few : rest.length < Feed.capacity) :
      Mailbox (ds ++ [.item x]) posted rest
  /-- It holds more than the feed keeps; the oldest items are lost, and counted. -/
  | lose {ds : List (Delivery α)} {posted lost rest : List α}
      (so : Mailbox ds posted (lost ++ rest)) (some : lost ≠ [])
      (full : rest.length = Feed.capacity) :
      Mailbox (ds ++ [.lagged lost.length]) posted rest

/-- Deliveries account for items: each is delivered, or is one of those that are counted as
lost, in this order. -/
inductive Accounts : List (Delivery α) → List α → Prop where
  /-- Nothing for nothing. -/
  | nil : Accounts [] []
  /-- An item for itself. -/
  | item {ds : List (Delivery α)} {items : List α} (x : α) (so : Accounts ds items) :
      Accounts (ds ++ [.item x]) (items ++ [x])
  /-- No item. -/
  | nothing {ds : List (Delivery α)} {items : List α} (so : Accounts ds items) :
      Accounts (ds ++ [.nothing]) items
  /-- As many as are counted. -/
  | lagged {ds : List (Delivery α)} {items : List α} (lost : List α) (so : Accounts ds items) :
      Accounts (ds ++ [.lagged lost.length]) (items ++ lost)

/-- **What was delivered accounts for what has left the mailbox.** -/
theorem Mailbox.accounts {ds : List (Delivery α)} {posted unread : List α}
    (h : Mailbox ds posted unread) : ∃ read, posted = read ++ unread ∧ Accounts ds read := by
  induction h with
  | new => exact ⟨[], rfl, .nil⟩
  | post x _ ih =>
    obtain ⟨read, rfl, so⟩ := ih
    exact ⟨read, by rw [List.append_assoc], so⟩
  | empty _ ih =>
    obtain ⟨read, rfl, so⟩ := ih
    exact ⟨read, rfl, .nothing so⟩
  | @take ds posted rest x _ _ ih =>
    obtain ⟨read, rfl, so⟩ := ih
    exact ⟨read ++ [x], by simp, .item x so⟩
  | @lose ds posted lost rest _ _ _ ih =>
    obtain ⟨read, rfl, so⟩ := ih
    exact ⟨read ++ lost, by simp, .lagged lost so⟩

/-- A subscriber who asks gets what is due. -/
theorem Mailbox.deliver {ds : List (Delivery α)} {posted unread : List α}
    (h : Mailbox ds posted unread) :
    Mailbox (ds ++ [Delivery.due unread]) posted (unread.drop (Delivery.due unread).weight) := by
  cases unread with
  | nil => exact h.empty
  | cons x rest =>
    unfold Delivery.due
    dsimp only
    by_cases few : rest.length < Feed.capacity
    · rw [if_pos few]
      exact h.take few
    · rw [if_neg few]
      -- the items that are lost come first, and as many as the feed keeps are left
      have many : 0 < rest.length + 1 - Feed.capacity := by omega
      have short : ((x :: rest).take (rest.length + 1 - Feed.capacity)).length
          = rest.length + 1 - Feed.capacity := by
        rw [List.length_take, List.length_cons]
        omega
      have split := List.take_append_drop (rest.length + 1 - Feed.capacity) (x :: rest)
      have some_lost : (x :: rest).take (rest.length + 1 - Feed.capacity) ≠ [] := by
        intro none
        rw [none, List.length_nil] at short
        omega
      have kept : ((x :: rest).drop (rest.length + 1 - Feed.capacity)).length = Feed.capacity := by
        rw [List.length_drop, List.length_cons]
        unfold Feed.capacity at few ⊢
        omega
      rw [← split] at h
      have lost := h.lose some_lost kept
      rw [short] at lost
      exact lost

/-! ## §3. A feed delivers what is due. -/

/-- **A subscriber gets what is due from the items after its cursor**, and its cursor moves past
those that the delivery is about. -/
theorem Feed.receive_eq {f : Feed α} {log : List α} {i n : Nat} (h : f.Holds log)
    (cursor : f.cursors[i]? = some n) :
    f.receive i = (Delivery.due (log.drop n),
      { f with cursors := f.cursors.set i (n + (Delivery.due (log.drop n)).weight) }) := by
  have place : f.cursors.set i n = f.cursors := by
    obtain ⟨inside, same⟩ := List.getElem?_eq_some_iff.mp cursor
    rw [← same]
    exact List.set_getElem_self inside
  unfold Feed.receive
  rw [cursor]
  dsimp only
  by_cases all : f.published ≤ n
  · -- there is nothing after the cursor
    have none : log.drop n = [] := List.drop_eq_nil_of_le (h.published ▸ all)
    rw [if_pos all, none]
    show _ = (Delivery.nothing, { f with cursors := f.cursors.set i (n + 0) })
    rw [Nat.add_zero, place]
  · rw [h.published] at all
    have inside : n < log.length := Nat.lt_of_not_le all
    rw [if_neg (by rw [h.published]; exact all), List.drop_eq_getElem_cons inside]
    unfold Delivery.due
    dsimp only
    rw [List.length_drop]
    by_cases late : n < f.oldest
    · have gap : ¬ log.length - (n + 1) < Feed.capacity := by
        rw [h.oldest] at late
        omega
      have count : f.oldest - n = log.length - (n + 1) + 1 - Feed.capacity := by
        rw [h.oldest]
        omega
      have place' : f.oldest = n + (log.length - (n + 1) + 1 - Feed.capacity) := by omega
      rw [if_pos late, if_neg gap, ← count]
      show _ = (_, { f with cursors := f.cursors.set i (n + (f.oldest - n)) })
      rw [count, ← place']
    · have close : log.length - (n + 1) < Feed.capacity := by
        rw [h.oldest] at late
        unfold Feed.capacity at late ⊢
        omega
      rw [if_neg late, if_pos close, h.lookup (Nat.le_of_not_lt late) inside,
        List.getElem?_eq_getElem inside]
      rfl

/-- Who reads moves its own cursor only. -/
theorem Feed.receive_frame (f : Feed α) (j : Nat) :
    (f.receive j).2.published = f.published ∧ (f.receive j).2.kept = f.kept ∧
      ∀ i, i ≠ j → (f.receive j).2.cursors[i]? = f.cursors[i]? := by
  unfold Feed.receive
  split
  · exact ⟨rfl, rfl, fun _ _ => rfl⟩
  · split
    · exact ⟨rfl, rfl, fun _ _ => rfl⟩
    · split
      · exact ⟨rfl, rfl, fun i other => List.getElem?_set_ne (Ne.symm other)⟩
      · split
        · exact ⟨rfl, rfl, fun i other => List.getElem?_set_ne (Ne.symm other)⟩
        · exact ⟨rfl, rfl, fun _ _ => rfl⟩

/-- What was published stays so while subscribers come and read. -/
theorem Feed.Holds.congr {f g : Feed α} {log : List α} (h : f.Holds log)
    (published : g.published = f.published) (kept : g.kept = f.kept) : g.Holds log :=
  ⟨published.trans h.published, kept.trans h.kept⟩

end Feeds

namespace Timeline

/-! ## §4. What is published in a run. -/

/-- **What one event publishes**: the notice of the token that a fetch brought, and nothing in any
other case. -/
theorem Step.feed {s next : Timeline} {e : Event} (h : Step s e next) :
    (∃ t, e = .settle (.ok t) ∧ next.cache.feed = s.cache.feed.publish t.notice) ∨
    ((∀ t, e ≠ .settle (.ok t)) ∧ next.cache.feed.published = s.cache.feed.published ∧
      next.cache.feed.kept = s.cache.feed.kept) := by
  cases h with
  | settle outcome _ =>
    cases outcome with
    | ok t => exact .inl ⟨t, rfl, rfl⟩
    | error e => exact .inr ⟨by simp, rfl, rfl⟩
  | receive i =>
    obtain ⟨published, kept, -⟩ := s.cache.feed.receive_frame i
    exact .inr ⟨by simp, published, kept⟩
  | _ => exact .inr ⟨by simp, rfl, rfl⟩

/-- The notices of the fetch that ends with an event. -/
def Event.notices (e : Event) : List TokenNotice := e.outcome?.toList.flatMap Outcome.notices

theorem Event.notices_eq_nil {e : Event} (h : ∀ t, e ≠ .settle (.ok t)) : e.notices = [] := by
  cases e with
  | settle outcome =>
    cases outcome with
    | ok t => exact absurd rfl (h t)
    | error e => rfl
  | _ => rfl

theorem Step.news {s next : Timeline} {e : Event} (h : Step s e next) :
    s.cache.feed.news next.cache.feed = e.notices ∧
      next.cache.feed.published = s.cache.feed.published + e.notices.length := by
  rcases h.feed with ⟨t, rfl, feed⟩ | ⟨other, published, kept⟩
  · rw [feed]
    exact ⟨Feed.news_publish _ _, rfl⟩
  · rw [Event.notices_eq_nil other, published]
    refine ⟨?_, rfl⟩
    unfold Feed.news
    rw [published, Nat.sub_self]
    rfl

/-- **The notices of a run are those of its successful fetches**, in the order in which they
ended. -/
theorem notices_eq {s next : Timeline} {es : List Event} (run : s.run? es = some next) :
    notices s es = (outcomes es).flatMap Outcome.notices := by
  refine run_induction (P := fun es _ => notices s es = (outcomes es).flatMap Outcome.notices)
    rfl ?_ run
  intro es mid e after hrun ih step
  unfold notices at ih ⊢
  rw [observe_snoc hrun step, ih, step.news.1, outcomes_snoc, List.flatMap_append]
  rfl

theorem notices_snoc {s mid next : Timeline} {es : List Event} {e : Event}
    (run : s.run? es = some mid) (step : Step mid e next) :
    notices s (es ++ [e]) = notices s es ++ e.notices := by
  unfold notices
  rw [observe_snoc run step, step.news.1]

theorem Step.holds {s next : Timeline} {e : Event} {log : List TokenNotice} (h : Step s e next)
    (holds : s.cache.feed.Holds log) : next.cache.feed.Holds (log ++ e.notices) := by
  rcases h.feed with ⟨t, rfl, feed⟩ | ⟨other, published, kept⟩
  · rw [feed]
    exact holds.publish t.notice
  · rw [Event.notices_eq_nil other, List.append_nil]
    exact holds.congr published kept

/-- The feed holds what was published before a run and during it. -/
theorem holds_of_run {s next : Timeline} {es : List Event} {log : List TokenNotice}
    (holds : s.cache.feed.Holds log) (run : s.run? es = some next) :
    next.cache.feed.Holds (log ++ notices s es) := by
  refine run_induction (P := fun es next => next.cache.feed.Holds (log ++ notices s es)) ?_ ?_ run
  · show s.cache.feed.Holds (log ++ [])
    rw [List.append_nil]
    exact holds
  · intro es mid e after hrun ih step
    rw [notices_snoc hrun step, ← List.append_assoc]
    exact step.holds ih

/-! ## §5. What a subscriber gets. -/

/-- What a subscriber gets with an event. -/
def delivery (i : Nat) (s : Timeline) : Event → List (Delivery TokenNotice)
  | .receive j => if j = i then [(s.cache.feed.receive i).1] else []
  | _ => []

/-- What a subscriber gets in a run, in order. -/
def deliveries (i : Nat) : Timeline → List Event → List (Delivery TokenNotice)
  | _, [] => []
  | s, e :: rest =>
    s.delivery i e ++
      match s.step? e with
      | none => []
      | some next => deliveries i next rest

theorem deliveries_snoc {i : Nat} {s mid : Timeline} {es : List Event} {e : Event}
    (run : s.run? es = some mid) :
    deliveries i s (es ++ [e]) = deliveries i s es ++ mid.delivery i e := by
  induction es generalizing s with
  | nil =>
    cases run
    simp only [List.nil_append, deliveries]
    split <;> simp
  | cons first es ih =>
    obtain ⟨next, hstep, hrest⟩ := Option.bind_eq_some_iff.mp run
    simp only [List.cons_append, deliveries, hstep, ih hrest, List.append_assoc]

/-- A subscriber in a run: it has a cursor, and what lies after the cursor is what would be left in
its mailbox. -/
def Reads (i : Nat) (log : List TokenNotice) (s₀ : Timeline) (es : List Event)
    (s : Timeline) : Prop :=
  ∃ n, s.cache.feed.cursors[i]? = some n ∧ n ≤ (log ++ notices s₀ es).length ∧
    Mailbox (deliveries i s₀ es) (notices s₀ es) ((log ++ notices s₀ es).drop n)

/-- **One event**: a notice is put into the mailbox, or the subscriber gets what is due, or nothing
that concerns it happens. -/
theorem Reads.step {i : Nat} {log : List TokenNotice} {s₀ s next : Timeline} {es : List Event}
    {e : Event} (h : Reads i log s₀ es s) (holds : s.cache.feed.Holds (log ++ notices s₀ es))
    (run : s₀.run? es = some s) (step : Step s e next) : Reads i log s₀ (es ++ [e]) next := by
  obtain ⟨n, cursor, below, box⟩ := h
  unfold Reads
  rw [notices_snoc run step, deliveries_snoc run, ← List.append_assoc]
  generalize log ++ notices s₀ es = all at holds below box ⊢
  -- an event that neither publishes nor concerns this subscriber
  have idle : e.notices = [] → s.delivery i e = [] → next.cache.feed.cursors[i]? = some n →
      ∃ n, next.cache.feed.cursors[i]? = some n ∧ n ≤ (all ++ e.notices).length ∧
        Mailbox (deliveries i s₀ es ++ s.delivery i e) (notices s₀ es ++ e.notices)
          ((all ++ e.notices).drop n) := by
    intro silent apart same
    rw [silent, apart, List.append_nil, List.append_nil, List.append_nil]
    exact ⟨n, same, below, box⟩
  cases step with
  | settle outcome _ =>
    cases outcome with
    | error e => exact idle rfl rfl cursor
    | ok t =>
      refine ⟨n, cursor, ?_, ?_⟩
      · rw [List.length_append]
        omega
      · show Mailbox (deliveries i s₀ es ++ []) (notices s₀ es ++ [t.notice])
          ((all ++ [t.notice]).drop n)
        rw [List.append_nil, List.drop_append_of_le_length below]
        exact box.post t.notice
  | subscribe =>
    refine idle rfl rfl ?_
    show (s.cache.feed.cursors ++ [_])[i]? = some n
    rw [List.getElem?_append_left (List.getElem?_eq_some_iff.mp cursor).1]
    exact cursor
  | receive j =>
    by_cases own : j = i
    · subst own
      have made := Feed.receive_eq holds cursor
      have bound := Delivery.weight_due_le (all.drop n)
      rw [List.length_drop] at bound
      refine ⟨n + (Delivery.due (all.drop n)).weight, ?_, ?_, ?_⟩
      · show (s.cache.feed.receive j).2.cursors[j]? = _
        rw [made]
        exact List.getElem?_set_self (List.getElem?_eq_some_iff.mp cursor).1
      · show _ ≤ (all ++ []).length
        rw [List.append_nil]
        omega
      · show Mailbox (deliveries j s₀ es ++ s.delivery j (.receive j)) (notices s₀ es ++ [])
          ((all ++ []).drop _)
        have got : s.delivery j (.receive j) = [Delivery.due (all.drop n)] := by
          show (if j = j then [(s.cache.feed.receive j).1] else []) = _
          rw [if_pos rfl, made]
        rw [List.append_nil, List.append_nil, got, ← List.drop_drop]
        exact box.deliver
    · refine idle rfl (if_neg own) ?_
      show (s.cache.feed.receive j).2.cursors[i]? = some n
      rw [(s.cache.feed.receive_frame j).2.2 i (Ne.symm own)]
      exact cursor
  | _ => exact idle rfl rfl cursor

/-- A subscriber reads along the whole run after it subscribed. -/
theorem reads_of_run {log : List TokenNotice} {s next : Timeline} {es : List Event} {i : Nat}
    (holds : s.cache.feed.Holds log) (subscribed : s.cache.feed.cursors[i]? = some log.length)
    (run : s.run? es = some next) : Reads i log s es next := by
  refine run_induction (P := Reads i log s) ?_ ?_ run
  · refine ⟨log.length, subscribed, ?_, ?_⟩
    · rw [List.length_append]
      omega
    · show Mailbox [] [] ((log ++ []).drop log.length)
      rw [List.append_nil, List.drop_length]
      exact .new
  · intro es mid e after hrun ih step
    exact ih.step (holds_of_run holds hrun) hrun step

/-! ## §6. All subscribers of all runs. -/

/-- **Notices reach subscribers.**  What is published in a run are the notices of the fetches that
succeeded, in the order in which they ended, each with the token and the expiry that the cache then
holds; no other event publishes, and publishing needs no subscriber.  What a subscriber got
accounts for a beginning of what was published since it subscribed, and each delivery was due: the
oldest item that it had not read, or, when there were more than the feed keeps, the number of the
oldest ones that are lost to it. -/
theorem notices_reach_subscribers {threshold : Span} {clock : Clock} {es : List Event}
    {s : Timeline} (run : (start (.empty threshold) clock).run? es = some s) :
    notices (start (.empty threshold) clock) es = (outcomes es).flatMap Outcome.notices ∧
    s.cache.feed.Holds (notices (start (.empty threshold) clock) es) ∧
    (∀ (t : AccessToken) (next : Timeline), Step s (.settle (.ok t)) next →
      next.cache.stored = some t ∧
      next.cache.feed = s.cache.feed.publish ⟨t.token, t.expiry, bearer, none⟩) ∧
    (∀ (e : Event) (next : Timeline), Step s e next → (∀ t, e ≠ .settle (.ok t)) →
      next.cache.feed.published = s.cache.feed.published ∧
      next.cache.feed.kept = s.cache.feed.kept) ∧
    (∀ (k : Nat) (t : AccessToken), s.holder = some k →
      ∃ next, Step s (.settle (.ok t)) next ∧ next.phases[k]? = some (.answered (.ok t))) ∧
    (∀ (before after : List Event) (mid next : Timeline), es = before ++ .subscribe :: after →
      (start (.empty threshold) clock).run? before = some mid → Step mid .subscribe next →
      let subscriber := mid.cache.feed.cursors.length
      ∃ read unread, notices next after = read ++ unread ∧
        Accounts (deliveries subscriber next after) read ∧
        Mailbox (deliveries subscriber next after) (notices next after) unread) := by
  have empty : (start (.empty threshold) clock).cache.feed.Holds [] := Feed.holds_empty
  have holds := holds_of_run empty run
  rw [List.nil_append] at holds
  refine ⟨notices_eq run, holds, ?_, ?_, ?_, ?_⟩
  · intro t next step
    cases step with
    | settle => exact ⟨rfl, rfl⟩
  · intro e next step other
    rcases step.feed with ⟨t, same, -⟩ | ⟨-, published, kept⟩
    · exact absurd same (other t)
    · exact ⟨published, kept⟩
  · intro k t held
    have locked := (locked_start (.empty threshold) clock).run run
    have step : Step s (.settle (.ok t)) _ := .settle (.ok t) held
    exact ⟨_, step, step.settled locked held⟩
  · intro before after mid next split hmid step subscriber
    subst split
    -- the rest of the run starts where the subscriber was added
    rw [run?_append, hmid] at run
    have rest : (mid.step? .subscribe).bind (fun first => first.run? after) = some s := run
    rw [step?_eq_some_iff.mpr step, Option.bind_some] at rest
    have holdsMid := holds_of_run empty hmid
    rw [List.nil_append] at holdsMid
    have holdsNext := step.holds holdsMid
    rw [Event.notices_eq_nil (by simp), List.append_nil] at holdsNext
    have subscribed : next.cache.feed.cursors[subscriber]?
        = some (notices (start (.empty threshold) clock) before).length := by
      rw [← holdsMid.published]
      cases step with
      | subscribe =>
        show (mid.cache.feed.cursors ++ [mid.cache.feed.published])[subscriber]? = _
        rw [List.getElem?_append_right (Nat.le_refl _), Nat.sub_self]
        rfl
    obtain ⟨n, -, -, box⟩ := reads_of_run holdsNext subscribed rest
    obtain ⟨read, whole, accounts⟩ := box.accounts
    exact ⟨read, _, whole, accounts, box⟩

/-- Eighteen tokens are fetched before a subscriber first asks: it is told that two are lost to it,
and then gets the third. -/
theorem notices_reach_subscriber_who_lags :
    let t : Nat → AccessToken := fun k => .ofParts "t" (some k)
    let after : List Event :=
      (List.range 18).flatMap (fun k => [.arrive .fresh, .enter k, .settle (.ok (t k))])
        ++ [.receive 0, .receive 0]
    let s₀ := start (.empty ⟨300, 0⟩) ⟨0⟩
    let next := s₀.setCache { s₀.cache with feed := s₀.cache.feed.subscribe.2 }
    ∃ s, s₀.run? (.subscribe :: after) = some s ∧
      deliveries 0 next after = [.lagged 2, .item (t 2).notice] ∧
      ∃ read unread, notices next after = read ++ unread ∧
        Accounts [.lagged 2, .item (t 2).notice] read ∧
        Mailbox [.lagged 2, .item (t 2).notice] (notices next after) unread := by
  intro t after s₀ next
  have possible : (s₀.run? (.subscribe :: after)).isSome = true := by decide +kernel
  have got : deliveries 0 next after = [.lagged 2, .item (t 2).notice] := by decide +kernel
  obtain ⟨s, run⟩ := Option.isSome_iff_exists.mp possible
  obtain ⟨-, -, -, -, -, subscribers⟩ := notices_reach_subscribers run
  obtain ⟨read, unread, whole, accounts, box⟩ := subscribers [] after s₀ next rfl rfl .subscribe
  -- the first subscriber has number zero
  change Accounts (deliveries 0 next after) read at accounts
  change Mailbox (deliveries 0 next after) (notices next after) unread at box
  rw [got] at accounts box
  exact ⟨s, run, got, read, unread, whole, accounts, box⟩

end Timeline

end WorkloadIdentity
