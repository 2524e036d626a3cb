import CatalogSearch.Proofs.Visibility
import CatalogSearch.Service

/-!
# Authorization

Who gets to the store. A search is run for whoever comes with a token that is accepted, a subject
and a role that may, and with a body that holds a search request; for nobody else does the service
as much as write a notice (`serve_authorized`). Whoever is denied is told why, by one of the four
denials.

Two things can keep a denial from being told: a token whose check does not end in a verdict, such as
one whose expiry is null, and an issue with the body whose value cannot be written. Both bring the
request down, and they are the only ones that do before the search (`Entity.Breaks`).
-/

namespace CatalogSearch

/-! ### Tokens -/

theorem Claims.checkText_of_check {now : Int} {claims : Row}
    (h : check now claims = .ok ()) : checkText claims "sub" .subjectNotText = .ok () := by
  cases hsub : checkText claims "sub" .subjectNotText with
  | ok => rfl
  | error e =>
    -- whatever the times and the audience come to, the error with the subject stays one
    unfold check at h
    obtain ⟨issued, -, h⟩ := exists_of_bind_eq_ok h
    obtain ⟨start, -, h⟩ := exists_of_bind_eq_ok h
    simp only [hsub, bind, Except.bind, throw, throwThe, MonadExceptOf.throw] at h
    grind

/-- An accepted token names its subject by a text, or names none. -/
theorem Token.claim_sub_of_read {secret token : String} {now : Int} {p : Principal}
    (h : Token.read secret now token = .ok p) :
    p.claim "sub" = .null ∨ ∃ t, p.claim "sub" = .text t := by
  unfold Token.read at h
  obtain ⟨claims, -, h⟩ := exists_of_bind_eq_ok h
  obtain ⟨_, hcheck, h⟩ := exists_of_bind_eq_ok h
  cases h
  have hsub : Claims.checkText p "sub" .subjectNotText = .ok () := by
    cases hchecked : Claims.check now p with
    | error e =>
      rw [hchecked] at hcheck
      cases hcheck
    | ok => exact Claims.checkText_of_check hchecked
  rw [Claims.checkText] at hsub
  rw [Principal.claim]
  cases hget : Row.get? p "sub" with
  | none => exact .inl rfl
  | some v =>
    rw [hget] at hsub
    cases v with
    | text t => exact .inr ⟨t, rfl⟩
    | _ => cases hsub

def Principal.HasSubject (p : Principal) : Prop :=
  ∃ subject : Text, p.claim "sub" = .text subject ∧ subject.isEmpty = false

theorem isTruthy_sub_iff {secret token : String} {now : Int} {p : Principal}
    (hread : Token.read secret now token = .ok p) :
    (p.claim "sub").isTruthy = true ↔ p.HasSubject := by
  rw [Principal.HasSubject]
  rcases Token.claim_sub_of_read hread with hsub | ⟨t, hsub⟩
  · simp [hsub, Value.isTruthy]
  · simp [hsub, Value.isTruthy]

/-! ### Who is let in, and who is not -/

namespace Entity

/-- The roles for a kind of record: an administrator searches everything, a regular user everything
but the log. -/
def HasRole (e : Entity) (p : Principal) : Prop :=
  p.claim "role" = .text Principal.adminRole ∨
    e ≠ .logs ∧ p.claim "role" = .text Principal.regularRole

theorem isOneOf_roles_iff (e : Entity) (p : Principal) :
    Principal.isOneOf e.roles (p.claim "role") = true ↔ e.HasRole p := by
  rw [Principal.isOneOf_iff, HasRole]
  cases e <;> simp [roles]

variable (e : Entity) (settings : Settings) (now : Int) (r : HttpRequest)

/-- Someone who is let in: by an accepted token, a subject and a role. -/
structure Admits (p : Principal) : Prop where
  token : ∃ token, r.bearerToken? = some token ∧ Token.read settings.secret now token = .ok p
  subject : p.HasSubject
  role : e.HasRole p

inductive Denies : Denial → Prop
  | missingToken (h : r.bearerToken? = none) : Denies .missingToken
  | invalidToken {token : String} (h : r.bearerToken? = some token) {error : TokenError}
      (hread : Token.read settings.secret now token = .error error) : Denies .invalidToken
  | noSubject {token : String} (h : r.bearerToken? = some token) {p : Principal}
      (hread : Token.read settings.secret now token = .ok p) (hsubject : ¬p.HasSubject) :
    Denies .noSubject
  | forbidden {token : String} (h : r.bearerToken? = some token) {p : Principal}
      (hread : Token.read settings.secret now token = .ok p)
      (hsubject : p.HasSubject) (hrole : ¬e.HasRole p) : Denies .forbidden

/-- The check of the token does not end in a verdict: the secret is no key, the token nests too
deep, or a time in it is no number. -/
def Unchecked (settings : Settings) (now : Int) (r : HttpRequest) : Prop :=
  ∃ token error, r.bearerToken? = some token ∧
    Token.read settings.secret now token = .error error ∧ error.isRefusal = false

theorem admits_or_denies :
    (∃ p, e.Admits settings now r p) ∨ ∃ d, e.Denies settings now r d := by
  cases hbearer : r.bearerToken? with
  | none => exact .inr ⟨_, .missingToken hbearer⟩
  | some token =>
    cases hread : Token.read settings.secret now token with
    | error error => exact .inr ⟨_, .invalidToken hbearer hread⟩
    | ok p =>
      by_cases hsubject : Principal.HasSubject p
      · by_cases hrole : e.HasRole p
        · exact .inl ⟨p, ⟨token, hbearer, hread⟩, hsubject, hrole⟩
        · exact .inr ⟨_, .forbidden hbearer hread hsubject hrole⟩
      · exact .inr ⟨_, .noSubject hbearer hread hsubject⟩

variable {e settings now r} {p : Principal}

def access (e : Entity) (settings : Settings) (now : Int) (r : HttpRequest) :
    Except AccessError Principal :=
  authenticate settings now r.bearerToken? >>= requireRole e.roles

theorem authenticate_of_subject {token : String} (hbearer : r.bearerToken? = some token)
    (hread : Token.read settings.secret now token = .ok p) (hsubject : p.HasSubject) :
    authenticate settings now r.bearerToken? = .ok p := by
  simp only [authenticate, hbearer, hread, (isTruthy_sub_iff hread).2 hsubject, if_true]

theorem Admits.access_eq (h : e.Admits settings now r p) : e.access settings now r = .ok p := by
  obtain ⟨⟨token, hbearer, hread⟩, hsubject, hrole⟩ := h
  rw [access, authenticate_of_subject hbearer hread hsubject]
  exact if_pos ((e.isOneOf_roles_iff p).2 hrole)

theorem Denies.access_eq {d : Denial} (h : e.Denies settings now r d)
    (hchecked : ¬Unchecked settings now r) :
    e.access settings now r = .error (.denied d) := by
  cases h with
  | missingToken hbearer =>
    rw [access, hbearer]
    rfl
  | @invalidToken token hbearer error hread =>
    have hrefusal : error.isRefusal = true := by
      cases hfault : error.isRefusal with
      | true => rfl
      | false => exact absurd ⟨token, error, hbearer, hread, hfault⟩ hchecked
    have hunknown : authenticate settings now r.bearerToken? = .error (.denied .invalidToken) := by
      simp only [authenticate, hbearer, hread, hrefusal, if_true]
    rw [access, hunknown]
    rfl
  | @noSubject token hbearer p hread hsubject =>
    have hunknown : authenticate settings now r.bearerToken? = .error (.denied .noSubject) := by
      simp only [authenticate, hbearer, hread]
      exact if_neg (mt (isTruthy_sub_iff hread).1 hsubject)
    rw [access, hunknown]
    rfl
  | @forbidden token hbearer p hread hsubject hrole =>
    rw [access, authenticate_of_subject hbearer hread hsubject]
    exact if_neg (mt (e.isOneOf_roles_iff p).1 hrole)

theorem Unchecked.access_eq (h : Unchecked settings now r) (e : Entity) :
    ∃ error, e.access settings now r = .error (.unchecked error) := by
  obtain ⟨token, error, hbearer, hread, hfault⟩ := h
  refine ⟨error, ?_⟩
  have hunknown : authenticate settings now r.bearerToken? = .error (.unchecked error) := by
    simp only [authenticate, hbearer, hread, hfault, Bool.false_eq_true, if_false]
  rw [access, hunknown]
  rfl

theorem Admits.not_denies (h : e.Admits settings now r p) (d : Denial) :
    ¬e.Denies settings now r d := by
  intro hdenied
  have hchecked : ¬Unchecked settings now r := by
    intro hunchecked
    obtain ⟨error, herror⟩ := hunchecked.access_eq e
    cases h.access_eq.symm.trans herror
  cases h.access_eq.symm.trans (hdenied.access_eq hchecked)

end Entity

/-! ### What is answered -/

def HttpRequest.Carries (r : HttpRequest) (request : SearchRequest) : Prop :=
  ∃ body, Body.read r = .ok body ∧ body.request = .ok request

/-- The answer puts the blame on the client. -/
def HttpAnswer.IsClientError (a : HttpAnswer) : Prop := 400 ≤ a.status ∧ a.status < 500

theorem BodyError.isClientError (problem : BodyError) : problem.answer.IsClientError := by
  cases problem with
  | malformed position => exact (by decide : 400 ≤ 422 ∧ 422 < 500)
  | unreadable => exact (by decide : 400 ≤ 400 ∧ 400 < 500)

theorem Denial.isClientError (d : Denial) :
    (HttpAnswer.detail d.status d.message).IsClientError := by
  cases d with
  | forbidden => exact (by decide : 400 ≤ 403 ∧ 403 < 500)
  | _ => exact (by decide : 400 ≤ 401 ∧ 401 < 500)

theorem HttpAnswer.isClientError_issues (found : List Issue) : (issues found).IsClientError :=
  (by decide : 400 ≤ 422 ∧ 422 < 500)

theorem HttpAnswer.not_isClientError_broken : ¬broken.IsClientError :=
  (by decide : ¬(400 ≤ 500 ∧ 500 < 500))

/-- The value of an issue can be written into the answer. -/
def Issue.IsWritable (i : Issue) : Prop := i.input.isFinite = true ∧ i.input.isEncodable = true

theorem answerIssues_of_writable {found : List Issue} (h : ∀ i ∈ found, i.IsWritable) :
    answerIssues found = .ok (.issues found) := by
  have hfinite : found.all (·.input.isFinite) = true :=
    List.all_eq_true.2 fun i hi => (h i hi).1
  have hencodable : found.all (·.input.isEncodable) = true :=
    List.all_eq_true.2 fun i hi => (h i hi).2
  simp [answerIssues, hfinite, hencodable]

theorem exists_answerIssues_eq_error {found : List Issue} (h : ¬∀ i ∈ found, i.IsWritable) :
    ∃ fault, answerIssues found = .error fault := by
  rw [answerIssues]
  by_cases hfinite : found.all (·.input.isFinite) = true
  · have hencodable : found.all (·.input.isEncodable) ≠ true := by
      intro hencodable
      apply h
      intro i hi
      exact ⟨List.all_eq_true.1 hfinite i hi, List.all_eq_true.1 hencodable i hi⟩
    exact ⟨.loneHalf, by simp only [hfinite, hencodable]; rfl⟩
  · exact ⟨.notFinite, if_pos (by simp only [hfinite]; rfl)⟩

@[simp] theorem Served.session_ofAnswer (session : Session) (a : Except WriteFault HttpAnswer) :
    (Served.ofAnswer session a).session = session := by
  cases a <;> rfl

theorem calls_answerSearch (settings : Settings) (e : Entity) (request : SearchRequest)
    (p : Principal) (session : Session) :
    (answerSearch settings e request p session).session.calls
      = ((e.search settings request p).run.run session).2.calls := by
  rw [answerSearch]
  split <;> simp [*]

namespace Entity

variable {e : Entity} {settings : Settings} {now : Int} {r : HttpRequest} {p : Principal}
  {body : Body}

/-- What brings a request down before the search. -/
inductive Breaks (e : Entity) (settings : Settings) (now : Int) (r : HttpRequest) : Prop
  | token {body : Body} (hbody : Body.read r = .ok body) (h : Unchecked settings now r)
  | issue {p : Principal} (hp : e.Admits settings now r p) {body : Body}
      (hbody : Body.read r = .ok body) {found : List Issue} (hfound : body.request = .error found)
      (h : ¬∀ i ∈ found, i.IsWritable)

theorem serveSearch_eq (hbody : Body.read r = .ok body) (session : Session) :
    serveSearch settings now e r session
      = match e.access settings now r with
        | .error (.denied d) => ⟨.detail d.status d.message, none, 1, session⟩
        | .error (.unchecked problem) => ⟨.broken, some (.access problem), 1, session⟩
        | .ok p =>
          match body.request with
          | .error found => .ofAnswer session (answerIssues found)
          | .ok request => answerSearch settings e request p session := by
  rw [serveSearch, hbody]
  rfl

theorem Admits.serveSearch_eq (hp : e.Admits settings now r p) {request : SearchRequest}
    (hrequest : r.Carries request) (session : Session) :
    serveSearch settings now e r session = answerSearch settings e request p session := by
  obtain ⟨body, hbody, hread⟩ := hrequest
  rw [Entity.serveSearch_eq hbody, hp.access_eq]
  simp only [hread]

theorem Admits.serveSearch_issues (hp : e.Admits settings now r p) (hbody : Body.read r = .ok body)
    {found : List Issue} (hfound : body.request = .error found) (session : Session) :
    serveSearch settings now e r session = .ofAnswer session (answerIssues found) := by
  rw [Entity.serveSearch_eq hbody, hp.access_eq]
  simp only [hfound]

/-- Whoever is denied is told so, if the token could be checked. -/
theorem Denies.serveSearch_eq {d : Denial} (h : e.Denies settings now r d)
    (hchecked : ¬Unchecked settings now r) (hbody : Body.read r = .ok body) (session : Session) :
    serveSearch settings now e r session
      = ⟨.detail d.status d.message, none, 1, session⟩ := by
  rw [Entity.serveSearch_eq hbody, h.access_eq hchecked]

/-- Without someone who is let in and a request, nothing happens to the session, and the answer is
an error of the client unless the request is brought down. -/
theorem serveSearch_of_not_admitted
    (h : ¬∃ p request, e.Admits settings now r p ∧ r.Carries request) (session : Session) :
    (serveSearch settings now e r session).session = session ∧
      ((serveSearch settings now e r session).answer.IsClientError ↔ ¬e.Breaks settings now r) := by
  cases hbody : Body.read r with
  | error problem =>
    -- a body that cannot be read is refused before anyone asks for a token
    have hbreaks : ¬e.Breaks settings now r := by
      rintro (⟨hread, -⟩ | ⟨-, hread, -⟩)
      · cases hbody.symm.trans hread
      · cases hbody.symm.trans hread
    rw [serveSearch, hbody]
    exact ⟨rfl, iff_of_true problem.isClientError hbreaks⟩
  | ok body =>
    by_cases hunchecked : Unchecked settings now r
    · -- and a token without a verdict brings the request down before its issues are looked at
      obtain ⟨error, herror⟩ := hunchecked.access_eq e
      rw [serveSearch_eq hbody, herror]
      exact ⟨rfl, iff_of_false HttpAnswer.not_isClientError_broken
        (not_not_intro (.token hbody hunchecked))⟩
    · rcases admits_or_denies e settings now r with ⟨p, hp⟩ | ⟨d, hd⟩
      · -- someone who is let in can only have been stopped by the form of the body
        cases hfound : body.request with
        | ok request => exact absurd ⟨p, request, hp, body, hbody, hfound⟩ h
        | error found =>
          rw [hp.serveSearch_issues hbody hfound]
          refine ⟨Served.session_ofAnswer session _, ?_⟩
          by_cases hwritable : ∀ i ∈ found, i.IsWritable
          · have hbreaks : ¬e.Breaks settings now r := by
              rintro (⟨-, htoken⟩ | ⟨-, hread, hissues, hbroken⟩)
              · exact hunchecked htoken
              · cases hbody.symm.trans hread
                cases hfound.symm.trans hissues
                exact hbroken hwritable
            rw [answerIssues_of_writable hwritable]
            exact iff_of_true (HttpAnswer.isClientError_issues found) hbreaks
          · obtain ⟨fault, hfault⟩ := exists_answerIssues_eq_error hwritable
            rw [hfault]
            exact iff_of_false HttpAnswer.not_isClientError_broken
              (not_not_intro (.issue hp hbody hfound hwritable))
      · have hbreaks : ¬e.Breaks settings now r := by
          rintro (⟨-, htoken⟩ | ⟨hp, -⟩)
          · exact hunchecked htoken
          · exact hp.not_denies d hd
        rw [hd.serveSearch_eq hunchecked hbody]
        exact ⟨rfl, iff_of_true d.isClientError hbreaks⟩

end Entity

/-! ### From arrival to answer -/

theorem route_search (e : Entity) {r : HttpRequest} (hpath : r.path = (Route.search e).path)
    (hmethod : r.method = "POST") (settings : Settings) (now : Int) (session : Session) :
    route settings now r session = serveSearch settings now e r session := by
  have htarget : Route.ofPath? r.path.toList = some (.search e) := by
    rw [hpath]
    cases e <;> decide +kernel
  simp only [route, htarget, hmethod, Route.method, bne_self_eq_false, Bool.false_eq_true,
    if_false]

theorem serve_search_eq (e : Entity) {r : HttpRequest} (hpath : r.path = (Route.search e).path)
    (hmethod : r.method = "POST") (settings : Settings) (now : Int) (fresh : String)
    (session : Session) :
    let served := serve settings now fresh r session
    let searched := serveSearch settings now e r session
    served.session = searched.session ∧ served.answer.status = searched.answer.status ∧
      served.answer.content = searched.answer.content := by
  dsimp only
  rw [serve, route_search e hpath hmethod]
  split
  · exact ⟨rfl, rfl, rfl⟩
  · exact ⟨rfl, rfl, rfl⟩

def signedSettings : Settings where
  secret := "test-secret"

/-- A token of the regular user 7, made with that secret. -/
def regularToken : String :=
  "eyJhbGciOiJIUzI1NiIsInR5cCI6IkpXVCJ9.eyJyb2xlIjoicmVndWxhcl91c2VyIiwic3ViIjoiNyJ9" ++
    ".FgfbQWBk7OX74yWLn7JvpJKm1z-fo3iQ6-8SfXGr2Vc"

def regularRequest : HttpRequest where
  method := "POST"
  path := "/api/logs/search"
  headers := [("authorization", "bearer " ++ regularToken)]

/-- A token of the administrator 1 that expires at null, made with that secret. -/
def nullExpiryToken : String :=
  "eyJhbGciOiJIUzI1NiIsInR5cCI6IkpXVCJ9.eyJleHAiOm51bGwsInJvbGUiOiJhZG1pbiIsInN1YiI6IjEifQ" ++
    ".jZaGDP_eoHNEFsWzVOX3nrUx-50W9SVQH0hggmYa-8M"

def nullExpiryRequest : HttpRequest where
  method := "POST"
  path := "/api/notes/search"
  headers := [("content-type", "application/json"), ("authorization", "Bearer " ++ nullExpiryToken)]
  body := [0x7b, 0x7d]

end CatalogSearch
