/-
  WorkloadIdentity.Proofs.Request.Additions ──── **WHAT A REQUEST IS SENT WITH.**

  A token that has been obtained leaves a request two ways.  It can be sent, or who pays for it
  cannot, and then nothing follows; or the very next thing is the request with its headers added.
  Both are read off the course of a request: which step comes after which, what one hands on to the
  next, and that only the last one can fail.

  Main results:
    * `addHeaders_signedWith` — what adding the headers of a token comes to
    * `KeepsCourse.after_token` — what follows a token
    * `Credentials.request_adds_headers` — so it is with every request, both times it is sent
-/
import WorkloadIdentity.Proofs.Request.Retry
import WorkloadIdentity.Proofs.Http.Legality

namespace WorkloadIdentity

open Credentials (addHeaders)

/-! ## §1. A request with the headers of a token. -/

/-- **A request is another with the headers of a token added.** -/
structure Request.SignedWith (a r : Request) (token : String) (quota : Option String) : Prop where
  /-- The same method. -/
  method : a.method = r.method
  /-- The same URL. -/
  url : a.url = r.url
  /-- The same body. -/
  body : a.body = r.body
  /-- All headers of the caller, and behind them those of the token under new names. -/
  headers : a.headers.toList = r.headers.toList ++
    (signature token quota).filter fun p => !r.headers.contains p.1
  /-- The token is sent once, or what the caller has set in its place. -/
  authorization : a.headers.values "authorization" =
    if r.headers.contains "authorization" then r.headers.values "authorization"
    else [(HeaderValue.ofText ("Bearer " ++ token)).hidden]
  /-- So is who pays. -/
  payer : ∀ project, quota = some project → a.headers.values "x-goog-user-project" =
    if r.headers.contains "x-goog-user-project" then r.headers.values "x-goog-user-project"
    else [.ofText project]
  /-- There is nothing else. -/
  others : ∀ name, name ≠ "authorization" → (name = "x-goog-user-project" → quota = none) →
    a.headers.values name = r.headers.values name
  /-- No value that is added goes beyond its line. -/
  inLine : ∀ p ∈ signature token quota, 10 ∉ p.2.bytes ∧ 13 ∉ p.2.bytes

/-- No legal value holds a line break. -/
theorem HeaderValue.Legal.inLine {s : String} (legal : Legal s) :
    10 ∉ (ofText s).bytes ∧ 13 ∉ (ofText s).bytes := by
  have made := ofString?_eq_some_iff.mpr ⟨legal, rfl⟩
  unfold ofString? at made
  dsimp only at made
  split at made
  · rename_i allowed
    have each := List.all_eq_true.mp allowed
    exact ⟨fun feed => absurd (each 10 feed) (by decide),
      fun back => absurd (each 13 back) (by decide)⟩
  · cases made

theorem Signable.inLine {token : String} {quota : Option String} (legal : Signable token quota) :
    ∀ p ∈ signature token quota, 10 ∉ p.2.bytes ∧ 13 ∉ p.2.bytes := by
  refine List.forall_mem_cons.mpr ⟨(legal_bearer_iff.mpr legal.token).inLine, ?_⟩
  intro p member
  obtain ⟨project, chosen, rfl⟩ := List.mem_map.mp member
  exact (legal.quota project (Option.mem_toList.mp chosen)).inLine

/-- **Adding the headers of a token** adds these and no others. -/
theorem addHeaders_signedWith (r : Request) {token : String} {quota : Option String}
    (legal : Signable token quota) :
    (addHeaders r ⟨signature token quota⟩).SignedWith r token quota := by
  have distinct := bearerHeaders_nodup (bearerHeaders_of_legal legal)
  have values := addHeaders_values r distinct
  refine ⟨rfl, rfl, rfl, addHeaders_toList r distinct, ?_, ?_, ?_, legal.inLine⟩
  · rw [values]
    cases quota <;> simp [Headers.values, signature, authorizationName, quotaName]
  · rintro project rfl
    rw [values]
    simp [Headers.values, signature, authorizationName, quotaName]
  · intro name unlike unpaid
    have nothing : (⟨signature token quota⟩ : Headers).values name = [] := by
      unfold Headers.values signature
      cases quota with
      | none => simp [authorizationName, Ne.symm unlike]
      | some project =>
        have other : name ≠ "x-goog-user-project" :=
          fun same => Option.some_ne_none project (unpaid same)
        simp [authorizationName, quotaName, Ne.symm unlike, Ne.symm other]
    rw [values, nothing]
    split
    · rfl
    · rename_i unset
      exact (Headers.values_of_unset (Bool.eq_false_of_not_eq_true unset)).symm

/-- Names are in lower case, however the caller has written them. -/
theorem Headers.contains_iff_written {h : Headers} {names : List String}
    (written : h.toList.map (·.1) = names.map String.toLower) (name : String) :
    h.contains name = true ↔ ∃ n ∈ names, n.toLower = name := by
  have listed : h.contains name = true ↔ name ∈ h.toList.map (·.1) := by
    unfold contains
    rw [List.any_eq_true, List.mem_map]
    simp only [beq_iff_eq]
  rw [listed, written, List.mem_map]

/-! ## §2. Which step comes after which. -/

/-- A current token is followed by headers, and headers by a sending; neither comes otherwise. -/
def Stage.Precedes (x y : Stage) : Prop :=
  (x = .obtain .current ↔ y = .sign) ∧ (x = .sign ↔ y = .send)

theorem fullCourse_precedes : fullCourse.IsChain Stage.Precedes := by
  unfold Stage.Precedes
  decide

/-- Headers are those of the token, or there are none for it. -/
theorem Course.sign_eq {c : Credentials} {s final : Session} {deeds : List Deed} {t : AccessToken}
    {outcome : Except AuthError Headers} (course : Course c s deeds final)
    (member : Deed.sign t outcome ∈ deeds) : outcome = bearerHeaders t.token c.quotaProject := by
  induction course with
  | nil => cases member
  | cons step _ ih =>
    rcases List.mem_cons.mp member with rfl | later
    · cases step
      rfl
    · exact ih later

section Courses

variable {c : Credentials} {r : Request} {s final : Session} {deeds before after : List Deed}
  {result : Except AuthError Response}

/-- What is true of any two steps, one right after the other. -/
theorem KeepsCourse.neighbours {x y : Deed} (kept : KeepsCourse c r s deeds result final)
    (split : deeds = before ++ x :: y :: after) :
    x.stage.Precedes y.stage ∧ Deed.HandsOn r x y := by
  have stages : (deeds.map Deed.stage).IsChain Stage.Precedes :=
    List.IsChain.prefix fullCourse_precedes kept.inOrder
  have ordered : deeds.IsChain fun x y => x.stage.Precedes y.stage := (List.isChain_map _).mp stages
  have handed := kept.handedOn
  rw [split, List.isChain_append_cons_cons] at ordered handed
  exact ⟨ordered.2.1, handed.2.1⟩

/-- The first step is to ask for a token. -/
theorem KeepsCourse.begins {x : Deed} (kept : KeepsCourse c r s deeds result final)
    (split : deeds = x :: after) : x.stage = .obtain .current := by
  have first := kept.inOrder
  rw [split] at first
  exact (List.cons_prefix_cons.mp first).1

/-- A step that decides nothing is not the last one. -/
theorem KeepsCourse.goes_on {x : Deed} (kept : KeepsCourse c r s deeds result final)
    (split : deeds = before ++ x :: after) (undecided : ¬ x.Decides result) :
    ∃ y later, after = y :: later := by
  cases after with
  | cons y later => exact ⟨y, later, rfl⟩
  | nil =>
    obtain ⟨last, final, decides⟩ := kept.decided
    rw [split, List.getLast?_concat] at final
    cases final
    exact absurd decides undecided

/-- A step that fails is the last one, and decides. -/
theorem KeepsCourse.stops {x : Deed} (kept : KeepsCourse c r s deeds result final)
    (split : deeds = before ++ x :: after) (failed : x.succeeded = false) :
    after = [] ∧ x.Decides result := by
  cases after with
  | cons y later =>
    have early : x ∈ deeds.dropLast := by
      rw [split, List.dropLast_append_cons, List.dropLast_cons_of_ne_nil (List.cons_ne_nil _ _)]
      exact List.mem_append_right _ List.mem_cons_self
    rw [kept.wentWell x early] at failed
    cases failed
  | nil =>
    obtain ⟨last, final, decides⟩ := kept.decided
    rw [split, List.getLast?_concat] at final
    cases final
    exact ⟨rfl, decides⟩

/-- **What follows a token**: the request with its headers, or nothing. -/
theorem KeepsCourse.after_token {t : AccessToken} (kept : KeepsCourse c r s deeds result final)
    (split : deeds = before ++ .obtain .current (.ok t) :: after) :
    (Signable t.token c.quotaProject → ∃ outcome later,
      after = .sign t (.ok ⟨signature t.token c.quotaProject⟩) ::
        .send (addHeaders r ⟨signature t.token c.quotaProject⟩) outcome :: later) ∧
    (¬ Signable t.token c.quotaProject →
      after = [.sign t (.error badHeaderValue)] ∧ result = .error badHeaderValue) := by
  obtain ⟨y, later, rfl⟩ := kept.goes_on split nofun
  obtain ⟨⟨signing, -⟩, handed⟩ := kept.neighbours split
  -- the step is told by its kind, its token by what it has been handed
  cases y with
  | obtain | send | log => cases signing.mp rfl
  | sign t' made =>
    cases handed
    have member : Deed.sign t made ∈ deeds := by
      rw [split]
      simp
    cases kept.carried.sign_eq member
    rw [List.append_cons] at split
    constructor
    · intro legal
      rw [bearerHeaders_of_legal legal] at split ⊢
      obtain ⟨z, later, rfl⟩ := kept.goes_on split nofun
      obtain ⟨⟨-, sending⟩, handed⟩ := kept.neighbours split
      cases z with
      | obtain | sign | log => cases sending.mp rfl
      | send a outcome =>
        obtain ⟨_, _, same, rfl⟩ := handed
        cases same
        exact ⟨outcome, later, rfl⟩
    · intro illegal
      rw [bearerHeaders_of_illegal illegal] at split ⊢
      obtain ⟨rfl, decided⟩ := kept.stops split rfl
      cases decided
      exact ⟨rfl, rfl⟩

/-- **What comes before a sending**: a token that was obtained, and the headers made of it. -/
theorem KeepsCourse.before_sending {a : Request} (kept : KeepsCourse c r s deeds result final)
    (sent : a ∈ sends deeds) : ∃ t, Deed.obtain .current (.ok t) ∈ deeds ∧
      ∃ h, bearerHeaders t.token c.quotaProject = .ok h ∧ a = addHeaders r h := by
  obtain ⟨d, member, sends⟩ := List.mem_filterMap.mp sent
  cases d with
  | obtain | sign | log => cases sends
  | send _ outcome =>
    cases sends
    obtain ⟨before, after, split⟩ := List.append_of_mem member
    -- the first step of all asks for a token, so there are two steps before the sending
    rcases List.eq_nil_or_concat before with rfl | ⟨earlier, x, rfl⟩
    · cases kept.begins split
    · rw [List.concat_append] at split
      obtain ⟨-, t, h, rfl, rfl⟩ := kept.neighbours split
      have signed : Deed.sign t (.ok h) ∈ deeds := by
        rw [split]
        simp
      rcases List.eq_nil_or_concat earlier with rfl | ⟨earliest, y, rfl⟩
      · cases kept.begins split
      · rw [List.concat_append] at split
        obtain ⟨-, rfl⟩ := kept.neighbours split
        refine ⟨t, ?_, h, (kept.carried.sign_eq signed).symm, rfl⟩
        rw [split]
        simp

end Courses

/-! ## §3. Every request. -/

/-- **What a request is sent with**, whenever a token has been obtained for it. -/
structure AddsHeaders (c : Credentials) (r : Request) (deeds : List Deed)
    (result : Except AuthError Response) : Prop where
  /-- If the token or who pays cannot be sent, nothing is; the error is the answer, and final. -/
  refused : ∀ before t after, deeds = before ++ .obtain .current (.ok t) :: after →
    ¬ Signable t.token c.quotaProject →
    ∃ e, after = [.sign t (.error e)] ∧ result = .error e ∧ e.transient = false
  /-- Otherwise the request is sent at once, with the headers of the token added. -/
  signed : ∀ before t after, deeds = before ++ .obtain .current (.ok t) :: after →
    Signable t.token c.quotaProject →
    ∃ h a outcome later, after = .sign t (.ok h) :: .send a outcome :: later ∧
      a.SignedWith r t.token c.quotaProject
  /-- Whatever is sent is sent like this. -/
  sent : ∀ a ∈ sends deeds, ∃ t, Deed.obtain .current (.ok t) ∈ deeds ∧
    Signable t.token c.quotaProject ∧ a.SignedWith r t.token c.quotaProject
  /-- The caller has set a header if its name is one that the caller has written, in any case. -/
  anyCase : ∀ names : List String, r.headers.toList.map (·.1) = names.map String.toLower →
    ∀ name, r.headers.contains name = true ↔ ∃ n ∈ names, n.toLower = name

theorem KeepsCourse.addsHeaders {c : Credentials} {r : Request} {s final : Session}
    {deeds : List Deed} {result : Except AuthError Response}
    (kept : KeepsCourse c r s deeds result final) : AddsHeaders c r deeds result where
  refused before t after split illegal := by
    obtain ⟨ends, told⟩ := (kept.after_token split).2 illegal
    exact ⟨_, ends, told, rfl⟩
  signed before t after split legal := by
    obtain ⟨outcome, later, follows⟩ := (kept.after_token split).1 legal
    exact ⟨_, _, outcome, later, follows, addHeaders_signedWith r legal⟩
  sent a member := by
    obtain ⟨t, obtained, h, made, rfl⟩ := kept.before_sending member
    by_cases legal : Signable t.token c.quotaProject
    · rw [bearerHeaders_of_legal legal] at made
      cases made
      exact ⟨t, obtained, legal, addHeaders_signedWith r legal⟩
    · rw [bearerHeaders_of_illegal legal] at made
      cases made
  anyCase names written name := Headers.contains_iff_written written name

/-- **Every request is sent with the caller's headers and those of its token**, the first time and
the second, and is not sent at all with a token or a payer that make no header. -/
theorem Credentials.request_adds_headers (c : Credentials) (r : Request) (s : Session) :
    ∃ deeds, KeepsCourse c r s deeds ((c.request r).run s).1 ((c.request r).run s).2 ∧
      AddsHeaders c r deeds ((c.request r).run s).1 := by
  obtain ⟨deeds, walk⟩ := walk_of_run c r s
  exact ⟨deeds, walk.keepsCourse, walk.keepsCourse.addsHeaders⟩

end WorkloadIdentity
