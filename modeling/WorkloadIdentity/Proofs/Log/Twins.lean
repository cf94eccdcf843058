/-
  WorkloadIdentity.Proofs.Log.Twins ──── **TWO RUNS SIDE BY SIDE.**

  Two functions on a state are twins if, from states that differ in secrets only, they lead to such
  states again and to results that are related.  What two replies may differ in depends on the
  requests that take them, so the errands of the requests to come are part of the comparison: those
  of the first function come first, and what is left is compared along the later ones.

  Twins are put together as actions are: one rule for two steps in a row, one for an action that
  may fail, and one lemma for each action.

  Main results:
    * `Twins.seq`, `RunTwins.bind`  — one after the other
    * `Act.send_twins`, `Act.call_twins` — requests
    * `Credentials.fetch_twins`     — a fetch of a token
-/
import WorkloadIdentity.Proofs.Credentials.Posts
import WorkloadIdentity.Proofs.Log.Inputs

namespace WorkloadIdentity

/-! ## §1. Twins. -/

/-- What is compared of two states. -/
structure Comparison (σ : Type) where
  /-- The requests that arrived, the last one first. -/
  arrived : σ → List Arrival
  /-- Whether they differ in secrets only, by the errands of the requests to come. -/
  alike : List Errand → σ → σ → Prop

/-- **Two functions on a state are twins.** -/
def Twins {σ β : Type} (m : Comparison σ) (R : β → β → Prop) (g g' : σ → β × σ) : Prop :=
  ∀ s, ∃ new : List Arrival, m.arrived (g s).2 = new.reverse ++ m.arrived s ∧
    ∀ later s', m.alike (new.map (·.errand) ++ later) s s' →
      R (g s).1 (g' s').1 ∧ m.alike later (g s).2 (g' s').2

section Rules

variable {σ β γ : Type} {m : Comparison σ} {Q : β → β → Prop} {R : γ → γ → Prop}

/-- Functions that nothing arrives by. -/
theorem Twins.still {g g' : σ → γ × σ} (silent : ∀ s, m.arrived (g s).2 = m.arrived s)
    (h : ∀ errands s s', m.alike errands s s' →
      R (g s).1 (g' s').1 ∧ m.alike errands (g s).2 (g' s').2) : Twins m R g g' := fun s =>
  ⟨[], silent s, fun later s' alike => h later s s' alike⟩

/-- Functions that look at the state first, and find the same in both. -/
theorem Twins.locally {g g' : σ → γ × σ} (h : ∀ s, ∃ l l', Twins m R l l' ∧ g s = l s ∧
    ∀ errands s', m.alike errands s s' → g' s' = l' s') : Twins m R g g' := by
  intro s
  obtain ⟨l, l', twins, here, there⟩ := h s
  obtain ⟨new, arrived, twin⟩ := twins s
  rw [here]
  refine ⟨new, arrived, fun later s' alike => ?_⟩
  rw [there _ s' alike]
  exact twin later s' alike

/-- **One function after the other.** -/
theorem Twins.seq {g g' : σ → β × σ} {k k' : β → σ → γ × σ} (total : ∀ b, Q b b)
    (first : Twins m Q g g') (next : ∀ b b', Q b b' → Twins m R (k b) (k' b')) :
    Twins m R (fun s => k (g s).1 (g s).2) (fun s => k' (g' s).1 (g' s).2) := by
  intro s
  obtain ⟨new, arrived, twin⟩ := first s
  obtain ⟨more, arrived', -⟩ := next (g s).1 (g s).1 (total _) (g s).2
  refine ⟨new ++ more, ?_, fun later s' alike => ?_⟩
  · rw [arrived', arrived, List.reverse_append, List.append_assoc]
  · rw [List.map_append, List.append_assoc] at alike
    obtain ⟨related, alike'⟩ := twin _ s' alike
    -- what arrives by the second function does not depend on its twin
    obtain ⟨more', arrived'', twin'⟩ := next _ _ related (g s).2
    have same : more' = more := by
      rw [arrived'] at arrived''
      exact (List.reverse_injective (List.append_cancel_right arrived'')).symm
    rw [same] at twin'
    exact twin' later _ alike'

/-- Related results can be related in another way. -/
theorem Twins.weaken {g g' : σ → γ × σ} {S : γ → γ → Prop} (h : Twins m R g g')
    (weaker : ∀ c c', R c c' → S c c') : Twins m S g g' := by
  intro s
  obtain ⟨new, arrived, twin⟩ := h s
  exact ⟨new, arrived, fun later s' alike =>
    ⟨weaker _ _ (twin later s' alike).1, (twin later s' alike).2⟩⟩

/-- What two functions find out can be left out. -/
theorem Twins.forget {g g' : σ → γ × σ} (h : Twins m R g g') :
    Twins m (fun _ _ => True) (fun s => ((), (g s).2)) fun s => ((), (g' s).2) := by
  intro s
  obtain ⟨new, arrived, twin⟩ := h s
  exact ⟨new, arrived, fun later s' alike => ⟨trivial, (twin later s' alike).2⟩⟩

end Rules

/-! ## §2. Actions that may fail. -/

section Runs

variable {σ α β : Type} {m : Comparison σ} {Q : α → α → Prop} {R : β → β → Prop}

/-- **Two actions are twins**: they end alike. -/
def RunTwins (m : Comparison σ) (R : α → α → Prop) (x x' : ExceptT AuthError (StateM σ) α) : Prop :=
  Twins m (Ended R) (fun s => x.run s) (fun s => x'.run s)

theorem RunTwins.pure {a a' : α} (h : Q a a') : RunTwins m Q (pure a) (pure a') :=
  Twins.still (fun _ => rfl) fun _ _ _ alike => ⟨.ok h, alike⟩

theorem RunTwins.throw (e : AuthError) : RunTwins m Q (throw e) (throw e) :=
  Twins.still (fun _ => rfl) fun _ _ _ alike => ⟨.same e, alike⟩

/-- **One action after the other.** -/
theorem RunTwins.bind {x x' : ExceptT AuthError (StateM σ) α}
    {f f' : α → ExceptT AuthError (StateM σ) β} (total : ∀ a, Q a a) (first : RunTwins m Q x x')
    (next : ∀ a a', Q a a' → RunTwins m R (f a) (f' a')) : RunTwins m R (x >>= f) (x' >>= f') := by
  have both (r r' : Except AuthError α) (related : Ended Q r r') :
      Twins m (Ended R) (ExceptT.bindCont f r) (ExceptT.bindCont f' r') := by
    -- after a failure nothing more is done, and nothing more arrives
    cases related with
    | ok h => exact next _ _ h
    | same e => exact Twins.still (fun _ => rfl) fun _ _ _ alike => ⟨.same e, alike⟩
    | apart h => exact Twins.still (fun _ => rfl) fun _ _ _ alike => ⟨.apart h, alike⟩
  exact Twins.seq (Ended.of_eq total) first both

/-- Two actions that look at the state for something that is the same in both. -/
theorem RunTwins.look {κ : Type} (key : σ → κ) {body body' : κ → ExceptT AuthError (StateM σ) α}
    (same : ∀ errands s s', m.alike errands s s' → key s = key s')
    (h : ∀ k, RunTwins m Q (body k) (body' k)) :
    RunTwins m Q (getThe σ >>= fun s => body (key s)) (getThe σ >>= fun s => body' (key s)) := by
  have looked (s : σ) :
      (getThe σ : ExceptT AuthError (StateM σ) σ).run s = (.ok s, s) := rfl
  refine Twins.locally fun s =>
    ⟨_, _, h (key s), run_bind_ok (looked s), fun errands s' alike => ?_⟩
  rw [same errands s s' alike]
  exact run_bind_ok (looked s')

end Runs

/-! ## §3. Actions on the world. -/

/-- How worlds are compared. -/
def World.comparison (source : SubjectSource) : Comparison World :=
  ⟨fun w => w.network.arrived, fun errands w w' => w.Alike source errands w'⟩

namespace Act

variable {α : Type} {source : SubjectSource} {R : α → α → Prop}

/-- Two actions on the world are twins. -/
abbrev ActTwins (source : SubjectSource) (R : α → α → Prop) (x x' : Act α) : Prop :=
  RunTwins (World.comparison source) R x x'

theorem lift_twins {r r' : Except AuthError α} (h : Ended R r r') :
    ActTwins source R (lift r) (lift r') := by
  refine Twins.still (fun w => ?_) fun errands w w' alike => ?_
  · show (World.comparison source).arrived ((lift r).run w).2 = _
    rw [run_lift]
  · show Ended R ((lift r).run w).1 ((lift r').run w').1 ∧ _
    rw [run_lift, run_lift]
    exact ⟨h, alike⟩

theorem note_twins {r r' : LogRecord} (h : r.Alike r') :
    ActTwins source (fun _ _ => True) (note r) (note r') :=
  Twins.still (fun _ => rfl) fun _ _ _ alike => ⟨.ok trivial, alike.note h⟩

end Act

/-! ## §4. Requests. -/

theorem RawResponse.Alike.status {format : SourceFormat} {errand : Errand} {raw raw' : RawResponse}
    (h : raw.Alike format errand raw') : raw.status = raw'.status := by
  cases h <;> rfl

/-- Two answers that do not tell of success are the same. -/
theorem RawResponse.Alike.eq_of_failed {format : SourceFormat} {errand : Errand}
    {raw raw' : RawResponse} (h : raw.Alike format errand raw')
    (failed : raw.status.isSuccess = false) : raw = raw' := by
  cases h with
  | same => rfl
  | body headers success =>
    rw [success] at failed
    cases failed

/-- Two answers to the application, or about the project, are the same. -/
theorem RawResponse.Alike.eq_of_errand {format : SourceFormat} {errand : Errand}
    {raw raw' : RawResponse} (h : raw.Alike format errand raw')
    (plain : errand = .projectId ∨ errand = .target) : raw = raw' := by
  cases h with
  | same => rfl
  | body headers success same =>
    rcases plain with rfl | rfl
    · exact congrArg _ same
    · exact congrArg _ same

namespace Network

variable {n : Network} {errand : Errand} {r : Request}

theorem send_unusable (unusable : r.url.isHttp = false) :
    n.send errand r = (.error (.builder (some r.url)), n) := by
  simp [send, unusable]

theorem send_unheard (http : r.url.isHttp = true) (deaf : n.listening = false) :
    n.send errand r = (.error (.sending r.url), n) := by
  simp [send, http, deaf]

/-- A request that arrives takes the next reply, if there is one. -/
theorem send_heard (http : r.url.isHttp = true) (listening : n.listening = true) :
    n.send errand r = (n.script.head?.elim (.error (.sending r.url)) (·.outcome r.url),
      { n with script := n.script.tail, arrived := ⟨errand, r⟩ :: n.arrived }) := by
  obtain ⟨_, script, arrived⟩ := n
  dsimp only at listening
  cases script <;> simp [send, http, listening]

end Network

namespace Act

variable {source : SubjectSource} {errand : Errand} {method url : String}
  {headers headers' : Headers} {body body' : Body}

/-- What a client tells of an outcome. -/
def told (errand : Errand) : Except ClientError Response → Except AuthError Response
  | .ok response => .ok response
  | .error e => .error (.ofClient errand.doing e)

theorem run_send_told (r : Request) (w : World) :
    (send errand r).run w
      = (told errand (w.network.send errand r).1,
        { w with network := (w.network.send errand r).2 }) := by
  rw [run_send]
  cases (w.network.send errand r).1 <;> rfl

/-- The next replies of two scripts make the same of a request. -/
theorem told_alike {errands : List Errand} {script script' : List Reply}
    (h : ScriptsAlike source.format (errand :: errands) script script') (u : Url) :
    Ended (Response.Alike source.format errand)
        (told errand (script.head?.elim (.error (.sending u)) (·.outcome u)))
        (told errand (script'.head?.elim (.error (.sending u)) (·.outcome u))) ∧
      ScriptsAlike source.format errands script.tail script'.tail := by
  cases h with
  | ended => exact ⟨.same _, .ended errands⟩
  | reply h later =>
    refine ⟨?_, later⟩
    simp only [List.head?_cons, Option.elim_some]
    have outcome := Reply.outcome_alike h u
    generalize Reply.outcome u _ = x at outcome
    generalize Reply.outcome u _ = x' at outcome
    cases outcome with
    | failed e => exact .same _
    | ok related => exact .ok related

/-- **Two requests to the same address** have the same failure or two responses that are alike. -/
theorem send_twins {r r' : Request} (address : r.url = r'.url) :
    ActTwins source (Response.Alike source.format errand) (send errand r) (send errand r') := by
  intro w
  show ∃ new : List Arrival,
    ((send errand r).run w).2.network.arrived = new.reverse ++ w.network.arrived ∧
      ∀ later w', w.Alike source (new.map (·.errand) ++ later) w' →
        Ended _ ((send errand r).run w).1 ((send errand r').run w').1 ∧
          World.Alike source later ((send errand r).run w).2 ((send errand r').run w').2
  cases http : r.url.isHttp with
  | false =>
    have http' : r'.url.isHttp = false := address ▸ http
    refine ⟨[], ?_, fun later w' alike => ?_⟩
    · rw [run_send_told, Network.send_unusable http]
      rfl
    · rw [run_send_told, run_send_told, Network.send_unusable http, Network.send_unusable http',
        address]
      exact ⟨.same _, alike⟩
  | true =>
    have http' : r'.url.isHttp = true := address ▸ http
    cases listening : w.network.listening with
    | false =>
      refine ⟨[], ?_, fun later w' alike => ?_⟩
      · rw [run_send_told, Network.send_unheard http listening]
        rfl
      · rw [run_send_told, run_send_told, Network.send_unheard http listening,
          Network.send_unheard http' (alike.listening ▸ listening), address]
        exact ⟨.same _, alike⟩
    | true =>
      -- the request arrives on both sides, and so the next replies are compared by its errand
      refine ⟨[⟨errand, r⟩], ?_, fun later w' alike => ?_⟩
      · rw [run_send_told, Network.send_heard http listening]
        rfl
      · obtain ⟨outcome, script⟩ := told_alike alike.script r.url
        rw [run_send_told, run_send_told, Network.send_heard http listening,
          Network.send_heard http' (alike.listening ▸ listening), ← address]
        exact ⟨outcome, { alike with script := script }⟩

/-- **So have two requests whose answers are read.** -/
theorem exchange_twins :
    ActTwins source (RawResponse.Alike source.format errand)
      (exchange errand method url headers body) (exchange errand method url headers' body') := by
  unfold exchange prepare
  cases Url.parse url with
  | error e => exact .throw _
  | ok u =>
    refine RunTwins.bind (Response.Alike.refl _ errand) (send_twins rfl) fun a a' related => ?_
    unfold Response.read
    rw [← related.complete, ← related.url]
    cases a.complete with
    | false => exact .throw _
    | true => exact .pure related.raw

/-- **And two whose answers must tell of success.** -/
theorem call_twins :
    ActTwins source (RawResponse.Alike source.format errand)
      (call errand method url headers body) (call errand method url headers' body') := by
  unfold call
  refine RunTwins.bind .same exchange_twins fun raw raw' related => ?_
  cases success : raw.status.isSuccess with
  | true =>
    rw [if_pos rfl, if_pos (related.status ▸ success)]
    exact .pure related
  | false =>
    rw [← related.eq_of_failed success, success, if_neg Bool.false_ne_true]
    exact .throw _

end Act

/-! ## §5. Subject tokens. -/

namespace SubjectSource

variable {source : SubjectSource}

theorem content_alike {path : String} {format : SourceFormat} {fs fs' : FileSystem}
    (h : fs.Alike (.file path format) fs') :
    Ended format.Alike (content fs path) (content fs' path) := by
  have texts := h.content path format rfl
  unfold content
  rw [← FileSystem.resolve_alike h]
  cases found : fs.resolve path with
  | error e => exact .same _
  | ok place =>
    dsimp only
    rw [← FileSystem.isFile_alike h]
    cases fs.isFile place with
    | false => exact .same _
    | true =>
      rcases texts place found with same | ⟨s, s', related, text, text'⟩
      · rw [same]
        exact Ended.of_eq .same _
      · rw [text, text']
        exact .ok related

theorem readFile_twins (path : String) (format : SourceFormat) :
    Act.ActTwins (.file path format) format.Alike (readFile path) (readFile path) := by
  refine Twins.still (fun w => ?_) fun errands w w' alike => ?_
  · show ((readFile path).run w).2.network.arrived = w.network.arrived
    rw [run_readFile]
    cases content w.files path <;> rfl
  · show Ended _ ((readFile path).run w).1 ((readFile path).run w').1 ∧
      World.Alike (.file path format) errands ((readFile path).run w).2 ((readFile path).run w').2
    rw [run_readFile, run_readFile]
    have related := content_alike alike.files
    refine ⟨related, ?_⟩
    generalize content w.files path = x at related
    generalize content w'.files path = x' at related
    cases related with
    | ok => exact alike.note (.same _)
    | same | apart => exact alike

theorem readUrl_twins (address : String) (headers : Headers) :
    Act.ActTwins source source.format.Alike (readUrl address headers)
      (readUrl address headers) := by
  unfold readUrl
  refine RunTwins.bind .same Act.exchange_twins fun raw raw' related => ?_
  rw [← related.status]
  cases success : raw.status.isSuccess with
  | false =>
    rw [← related.eq_of_failed success]
    exact .throw _
  | true =>
    refine RunTwins.bind (fun _ => trivial) (Act.note_twins (.same _)) fun _ _ _ => .pure ?_
    cases related with
    | same => exact .same _
    | body headers success h => exact h

/-- The next answer of the application. -/
theorem run_askApplication (w : World) :
    askApplication.run w = (match w.subjects.head?.getD exhausted with
      | .token value => .ok value
      | .failure transient text => .error (.unavailableFrom transient
          ("failed to fetch subject token: " ++ text) (.reported text)),
      { w with subjects := w.subjects.drop 1 }) := by
  have looked : (getThe World : Act World).run w = (.ok w, w) := rfl
  unfold askApplication
  rw [run_bind_ok looked]
  cases w.subjects.head?.getD exhausted <;> rfl

theorem askApplication_twins :
    Act.ActTwins source (fun _ _ => True) askApplication askApplication := by
  refine Twins.still (fun w => ?_) fun errands w w' alike => ?_
  · show (askApplication.run w).2.network.arrived = w.network.arrived
    rw [run_askApplication]
  · show Ended _ (askApplication.run w).1 (askApplication.run w').1 ∧
      World.Alike source errands (askApplication.run w).2 (askApplication.run w').2
    rw [run_askApplication, run_askApplication]
    have replies := alike.subjects
    refine ⟨?_, { alike with subjects := ?_ }⟩
    · generalize w.subjects = l at replies
      generalize w'.subjects = l' at replies
      cases replies with
      | nil => exact .same _
      | cons first _ =>
        cases first with
        | same reply => exact Ended.of_eq (fun _ => trivial) _
        | token value value' => exact .ok trivial
    · dsimp only
      generalize w.subjects = l at replies
      generalize w'.subjects = l' at replies
      cases replies with
      | nil => exact .nil
      | cons _ later => exact later

/-- **Two retrievals of a subject token** both bring one, or both fail. -/
theorem retrieve_twins (source : SubjectSource) :
    Act.ActTwins source (fun _ _ => True) source.retrieve source.retrieve := by
  cases source with
  | file path format =>
    exact RunTwins.bind .same (readFile_twins path format) fun content content' related =>
      Act.lift_twins (SourceFormat.extract_alike related path)
  | url address headers format =>
    exact RunTwins.bind .same (readUrl_twins address headers) fun content content' related =>
      Act.lift_twins (SourceFormat.extract_alike related address)
  | application => exact askApplication_twins

end SubjectSource

/-! ## §6. A fetch. -/

/-- **Credentials that differ in how the client makes itself known**, and so in its secret. -/
def Credentials.Alike (c c' : Credentials) : Prop :=
  ∃ a, c' = { c with sts := ⟨c.sts.url, a⟩ }

section Fetching

variable {source : SubjectSource}

/-- **Two trades of subject tokens**, whatever the subject tokens are and whoever the client is. -/
theorem Sts.exchange_twins {s s' : Sts} (address : s.url = s'.url) (f f' : ExchangeForm)
    (caller : Headers) :
    Act.ActTwins source TokenAnswer.Alike (s.exchange f caller) (s'.exchange f' caller) := by
  unfold exchange
  have made : Ended (fun _ _ => True) (s.headers caller) (s'.headers caller) := by
    unfold headers
    rw [s.authentication.headers_eq, s'.authentication.headers_eq]
    exact .ok trivial
  refine RunTwins.bind (fun _ => trivial) (Act.lift_twins made) fun h h' _ => ?_
  rw [← address]
  refine RunTwins.bind .same Act.call_twins fun raw raw' related => ?_
  refine RunTwins.bind TokenAnswer.Alike.refl
    (Act.lift_twins (TokenAnswer.decode_alike related)) fun answer answer' decoded => .pure ?_
  exact ⟨decoded.token, decoded.expiresIn⟩

/-- **Two requests for a token of a service account**, with tokens that can both be sent. -/
theorem Impersonation.generate_twins {token token' : String} (h : TokenAlike token token')
    (url : String) (scopes : List String) :
    Act.ActTwins source AccessToken.Alike (generate url token scopes)
      (generate url token' scopes) := by
  unfold generate
  have made : Ended (fun _ _ => True) (headers token) (headers token') :=
    Ended.bind (bearerHeaders_alike h none) fun _ _ _ => .ok trivial
  refine RunTwins.bind (fun _ => trivial) (Act.lift_twins made) fun _ _ _ => ?_
  refine RunTwins.bind .same Act.call_twins fun raw raw' related => ?_
  refine RunTwins.bind ServiceToken.Alike.refl
    (Act.lift_twins (ServiceToken.decode_alike related)) fun answer answer' decoded => ?_
  exact Act.lift_twins (ServiceToken.token_alike decoded raw raw')

/-- The clocks stand at the same instant. -/
theorem Act.now_twins : Act.ActTwins source Eq Act.now Act.now := by
  refine RunTwins.look (fun w : World => w.clock.now) (fun errands w w' alike => ?_)
    fun now => .pure rfl
  rw [alike.clock]

/-- **Two fetches of a token.** -/
theorem Credentials.fetch_twins {c c' : Credentials} (h : c.Alike c') :
    Act.ActTwins c.source AccessToken.Alike c.fetch c'.fetch := by
  obtain ⟨a, rfl⟩ := h
  have address : c.sts.url = (Sts.mk c.sts.url a).url := rfl
  unfold fetch
  refine RunTwins.bind (fun _ => trivial) c.source.retrieve_twins fun s s' _ => ?_
  refine RunTwins.bind TokenAnswer.Alike.refl (Sts.exchange_twins address _ _ _)
    fun answer answer' related => ?_
  dsimp only
  cases c.impersonationUrl with
  | some url => exact Impersonation.generate_twins related.token url c.scopes
  | none =>
    -- the clocks stand at the same instant, and so the tokens expire at the same one
    refine RunTwins.bind (fun _ => rfl) Act.now_twins fun t t' same => .pure ?_
    subst same
    refine ⟨related.token, ?_⟩
    unfold TokenAnswer.token
    rw [related.expiresIn]

end Fetching

end WorkloadIdentity
