import SignOn.Proofs.Gateway.CodeFlow

/-!
# What a token request says

Whatever a code and a registration hold, the one body that an exchange sends names five values, and
these are the ones that are meant (`Says`).  No code can add a value, leave one out or change
another one, and what is said tells the code and the registration (`tokenBody_eq_iff`).  This holds
for a reader that skips and replaces what it cannot read as well as for one that takes nothing else
than named values.
-/

namespace SignOn.Gateway

set_option autoImplicit false

open Settings (Providers Registration)

/-! ## The body -/

section Body

variable {registration other : Registration} {code otherCode : String}

/-- Bodies are the same if and only if they are made of the same four texts. -/
theorem tokenBody_eq_iff :
    tokenBody registration code = tokenBody other otherCode ↔
      code = otherCode ∧ registration.clientId = other.clientId ∧
        registration.clientSecret = other.clientSecret ∧
          registration.redirectUri = other.redirectUri := by
  constructor
  · intro same
    have here := (says_tokenBody registration code).leniently
    rw [same, (says_tokenBody other otherCode).leniently] at here
    simp only [List.cons.injEq, Prod.mk.injEq, true_and, and_true] at here
    obtain ⟨codes, ids, secrets, addresses⟩ := here
    exact ⟨codes.symm, ids.symm, secrets.symm, addresses.symm⟩
  · rintro ⟨rfl, ids, secrets, addresses⟩
    rw [tokenBody, tokenBody, tokenParameters, tokenParameters, ids, secrets, addresses]

theorem tokenBody_ne_empty (registration : Registration) (code : String) :
    tokenBody registration code ≠ "" := by
  intro empty
  have said := (says_tokenBody registration code).leniently
  rw [empty] at said
  cases said

end Body

/-! ## The bodies of an exchange -/

section Exchange

variable {client : Client} {providers : Providers} {provider : Provider}
  {registration : Registration} {code token : String} {script : List (Option Reply)}

/-- The bodies of the messages that have one. -/
def bodies (sent : List Message) : List String :=
  (sent.map Message.body).filter (· ≠ "")

theorem bodies_append (first second : List Message) :
    bodies (first ++ second) = bodies first ++ bodies second := by
  rw [bodies, List.map_append, List.filter_append, bodies, bodies]

theorem bodies_tokenRequest (registration : Registration) (code : String) (tokens : Endpoint) :
    bodies [tokenRequest registration code tokens] = [tokenBody registration code] :=
  List.filter_cons_of_pos (decide_eq_true (tokenBody_ne_empty registration code))

/-- Asking about the user takes no body. -/
theorem bodies_askUserinfo :
    bodies ((client.askUserinfo provider registration token).run script).2 = [] := by
  unfold Client.askUserinfo
  split
  · rfl
  · split
    · rfl
    · rfl

/-- An exchange has one body, if the endpoint for its token request can be reached, and none if it
cannot. -/
theorem bodies_fetchUserinfo (registered : providers.registration? provider = some registration) :
    bodies ((client.fetchUserinfo providers provider code).run script).2 =
      (client.endpoint? (registration.tokenAddress provider)).toList.map fun _ =>
        tokenBody registration code := by
  simp only [Client.fetchUserinfo, registered, Dialogue.run_bind]
  cases reached : client.endpoint? (registration.tokenAddress provider) with
  | none => simp [Client.exchangeCode, reached, bodies]
  | some tokens =>
    rw [run_exchangeCode reached, bodies_append, bodies_tokenRequest]
    cases granted script.head?.join with
    | error error => rfl
    | ok token => rw [bodies_askUserinfo]; rfl

/-- **A token request cannot be injected into.**  Whatever the code and the registration hold, each
body that an exchange sends names the five values that are meant and nothing else, one is sent if
the endpoint can be reached, and no other code and registration have the same one. -/
theorem Client.fetchUserinfo_uninjected (client : Client) (providers : Providers)
    (provider : Provider) (code : String) (script : List (Option Reply))
    {registration : Registration}
    (registered : providers.registration? provider = some registration) :
    (∀ body ∈ bodies ((client.fetchUserinfo providers provider code).run script).2,
        Says registration code body) ∧
      (bodies ((client.fetchUserinfo providers provider code).run script).2).length =
        (client.endpoint? (registration.tokenAddress provider)).toList.length ∧
      ∀ other otherCode, tokenBody registration code = tokenBody other otherCode ↔
        code = otherCode ∧ registration.clientId = other.clientId ∧
          registration.clientSecret = other.clientSecret ∧
            registration.redirectUri = other.redirectUri := by
  rw [bodies_fetchUserinfo registered]
  refine ⟨?_, List.length_map _, fun other otherCode => tokenBody_eq_iff⟩
  intro body member
  obtain ⟨_, _, rfl⟩ := List.mem_map.1 member
  exact says_tokenBody registration code

namespace Sample

/-- A registration whose texts hold every separator of the form encoding. -/
def oddRegistration : Registration :=
  ⟨"a&code=b", "100% = 1+1", "http://localhost/cb?x=é\r\n", some "http://localhost/token", none⟩

end Sample

/-- A code that tries to add a value of its own, sent by a client that can reach the endpoint. -/
theorem Client.fetchUserinfo_uninjected_odd :
    ∃ body, bodies ((Client.plain.fetchUserinfo ⟨some Sample.oddRegistration, none⟩ .google
        "c&client_id=evil").run []).2 = [body] ∧
      Says Sample.oddRegistration "c&client_id=evil" body := by
  have registered : Providers.registration? ⟨some Sample.oddRegistration, none⟩ .google =
      some Sample.oddRegistration := rfl
  have uninjected := Client.plain.fetchUserinfo_uninjected ⟨some Sample.oddRegistration, none⟩
    .google "c&client_id=evil" [] registered
  have reached : (Client.plain.endpoint?
      (Sample.oddRegistration.tokenAddress .google)).toList.length = 1 := by
    decide +kernel
  obtain ⟨body, sent⟩ := List.length_eq_one_iff.1 (uninjected.2.1.trans reached)
  exact ⟨body, sent, uninjected.1 body (sent ▸ List.mem_singleton_self body)⟩

end Exchange

end SignOn.Gateway
