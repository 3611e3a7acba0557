import RestQuery.Proofs.Client.Operations
import RestQuery.Proofs.Connection.RetryContract

/-!
# Every request carries the credential

The credential is attached in two places: a command carries it from the start, and the execution of
a request attaches it unless the request carries one. Names of headers are told apart by their case
in the map of headers, but not where the execution looks for one. So a request could come out with
none or with two.

It does not: the execution leaves a request alone that carries any credential
(`authorized_eq_self`), and to one that carries none it adds just one (`carries_authorized`). With
that, `carryOut_authenticated` says of every operation what its requests carry.
-/

namespace RestQuery

open Session

/-- The headers that carry a credential: those called `Authorization`, whatever the case. -/
def credentials (headers : KeyMap String) : List (String × String) :=
  headers.filter fun entry => Text.sameIgnoringCase entry.1 "authorization"

/-- Whether a request carries a value as its credential, once. -/
def Request.Carries (value : String) (r : Request) : Prop :=
  credentials r.headers = [("Authorization", value)]

/-- The name that the credential is sent under is one of a header that carries a credential. -/
theorem credentials_cons (value : String) (headers : KeyMap String) :
    credentials (("Authorization", value) :: headers) =
      ("Authorization", value) :: credentials headers :=
  List.filter_cons_of_pos (show Text.sameIgnoringCase "Authorization" "authorization" by decide)

/-- A credential that is put over headers without one is the only one. -/
theorem credentials_overlay {headers : KeyMap String} (h : credentials headers = [])
    (value : String) :
    credentials (headers.overlay [("Authorization", value)]) = [("Authorization", value)] := by
  have hnew : "Authorization" ∉ KeyMap.keys headers := by
    intro hmem
    obtain ⟨entry, hentry, hname⟩ := List.mem_map.mp hmem
    refine List.filter_eq_nil_iff.mp h entry hentry ?_
    rw [hname]
    decide
  have hinsert : (credentials (headers.insert "Authorization" value)).Perm
      (credentials (("Authorization", value) :: headers)) :=
    (KeyMap.insert_perm hnew value).filter _
  rw [credentials_cons, h] at hinsert
  exact List.perm_singleton.mp hinsert

/-- The execution finds a credential in a request that has such a header. -/
theorem Request.isSome_header?_iff (r : Request) :
    (r.header? "authorization").isSome ↔ credentials r.headers ≠ [] := by
  rw [header?, Option.isSome_map, ← List.head?_filter, List.isSome_head?]
  rfl

namespace Connection

variable {σ κ α : Type} {conn : Connection σ} {credential : Credential} {value : String}
  {given : KeyMap String}

/-- A request that carries a credential is executed as it is. -/
theorem authorized_eq_self {request : Request} (h : credentials request.headers ≠ [])
    (w : World σ) : conn.authorized request w = request :=
  if_pos (request.isSome_header?_iff.mpr h)

/-- The headers of a fixed credential. -/
theorem headers_fixed (hauth : conn.auth = .fixed credential)
    (hvalue : credential.header? = some value) (asked : Nat) :
    conn.auth.headers asked = [("Authorization", value)] := by
  rw [Auth.headers, hauth, Auth.header?, hvalue]

/-- A request that carries none is executed with the credential. -/
theorem carries_authorized (hauth : conn.auth = .fixed credential)
    (hvalue : credential.header? = some value) {request : Request}
    (h : credentials request.headers = []) (w : World σ) :
    (conn.authorized request w).Carries value := by
  have hmissing : ¬(request.header? "authorization").isSome :=
    fun hfound => request.isSome_header?_iff.mp hfound h
  rw [authorized, if_neg hmissing, headers_fixed hauth hvalue]
  exact credentials_overlay h value

/-- What is sent for a request that has the credential's headers, or others that were given: these
are kept if they carry a credential, and else the request carries the one of the connection. -/
theorem Issues.carries {r : Request} (h : conn.Issues (conn.HeadsWith given) r)
    (hauth : conn.auth = .fixed credential) (hvalue : credential.header? = some value) :
    (credentials given = [] → r.Carries value) ∧ (credentials given ≠ [] → r.headers = given) := by
  obtain ⟨request, w, hheaders | ⟨rfl, asked, hheaders⟩, rfl⟩ := h
  · subst hheaders
    exact ⟨fun hnone => carries_authorized hauth hvalue hnone w,
      fun hany => congrArg Request.headers (authorized_eq_self hany w)⟩
  · refine ⟨fun _ => ?_, fun hany => absurd rfl hany⟩
    rw [headers_fixed hauth hvalue] at hheaders
    have hcarries : request.Carries value := by
      rw [Request.Carries, hheaders]
      exact credentials_cons value []
    rw [authorized_eq_self (by rw [hcarries]; exact List.cons_ne_nil _ _)]
    exact hcarries

/-- Whether a command is one that the connection makes of a query. -/
def Makes (conn : Connection σ) (c : Command) : Prop :=
  ∃ (q : Query) (params : Parameters) (w w' : World σ),
    eval (conn.command q params) w = (.ok c, w')

/-- A command that the connection makes has the headers of the credential. -/
theorem Makes.headers_eq {c : Command} (h : conn.Makes c) :
    ∃ asked, c.descriptor.headers = conn.auth.headers asked := by
  obtain ⟨q, params, w, w', heval⟩ := h
  rw [eval_command] at heval
  split at heval
  · cases heval
  · cases heval
    exact ⟨w.asked, rfl⟩

/-- Whether a credential is given with an operation: by the headers of a request, or by those of a
command that the connection did not make. -/
def GivenCredential (conn : Connection σ) : Operation κ α → Prop
  | .execute request => credentials request.headers ≠ []
  | .send c _ => credentials c.descriptor.headers ≠ [] ∧ ¬conn.Makes c
  | _ => False

/-- Over a connection with a fixed credential, whatever its policy, every request that is sent for
an operation carries the credential, once, unless one is given with the operation. Headers that
carry one are sent as they are. -/
theorem carryOut_authenticated (hauth : conn.auth = .fixed credential)
    (hvalue : credential.header? = some value) (op : Operation κ α) (w : World σ) :
    (¬conn.GivenCredential op → w.Adds (Request.Carries value) ((conn.carryOut op).run w).2) ∧
      (credentials op.headers ≠ [] →
        w.Adds (·.headers = op.headers) ((conn.carryOut op).run w).2) := by
  have hsent := (conn.executes_carryOut op).adds w
  have hkept (hany : credentials op.headers ≠ []) :
      w.Adds (·.headers = op.headers) ((conn.carryOut op).run w).2 :=
    hsent.mono fun r hr => (hr.carries hauth hvalue).2 hany
  refine ⟨fun hgiven => ?_, hkept⟩
  by_cases hnone : credentials op.headers = []
  · exact hsent.mono fun r hr => (hr.carries hauth hvalue).1 hnone
  · -- Only a command that the connection made carries a credential that was not given.
    cases op with
    | execute request => exact absurd hnone hgiven
    | send c call =>
      have hmade : conn.Makes c := Classical.not_not.mp fun hother => hgiven ⟨hnone, hother⟩
      obtain ⟨asked, hheaders⟩ := hmade.headers_eq
      rw [headers_fixed hauth hvalue] at hheaders
      refine (hkept hnone).mono fun r hr => ?_
      rw [Request.Carries, hr, Operation.headers, hheaders]
      exact credentials_cons value []
    | _ => exact absurd rfl hnone

/-- The second attempt at a request carries the credential as the first does. -/
theorem carryOut_authenticated_unavailable :
    let conn := scripted .active
    let w : World (List (Except Error Response)) :=
      { backend := [.ok { status := 503 }, .ok { status := 200 }] }
    let w' := ((conn.carryOut (.get "tracks" [])).run w).2
    conn.auth = .fixed (.bearer "token") ∧
      (Credential.bearer "token").header? = some "Bearer token" ∧ w'.sent.length = 2 ∧
      ∀ s ∈ w'.sent, s.request.Carries "Bearer token" := by
  intro conn w w'
  have hauth : conn.auth = .fixed (.bearer "token") := rfl
  have hvalue : (Credential.bearer "token").header? = some "Bearer token" := by decide
  obtain ⟨more, hmore, hcarries⟩ :=
    (carryOut_authenticated hauth hvalue (.get "tracks" []) w).1 id
  have hsent : w'.sent = more := hmore
  exact ⟨hauth, hvalue, by decide +kernel, by rw [hsent]; exact hcarries⟩

end Connection

end RestQuery
