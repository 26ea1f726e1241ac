import Rekey.Migration.Users
import Rekey.Proofs.Identity.Answers
import Rekey.Proofs.Identity.Requests
import Rekey.Proofs.Users.Agreement

/-!
# Resolving an email by requests

Where requests can be made the provider is the same at the address of the users, and sees the world
through its requests alone. So a run in which the requests are kept does the same as one in which
they are not, and shows what a resolution asks: nothing for a blank email, else the question for the
email, and then, only if the answer says that nobody is known, the wish for an account. Where no
request can be made none is sent.
-/

namespace Rekey.Rest

open Rekey.Network (Request Response ScriptedServer)
open Rekey.Text (trim)

variable {σ : Type}

/-! ## The provider at an address -/

/-- Makes a request and reads the answer. -/
def asking (send : Sender σ) (q : Request) (read : Response → Except ProviderFault Account) :
    StateM σ (Except ProviderFault Account) := fun w =>
  (answered read (send q w).1, (send q w).2)

/-- The provider at the address of the users. -/
def providerAt (send : Sender σ) (users : Url) (key : String) : Provider σ where
  name := "rest"
  accountOf email := asking send (lookupRequest users key email) (lookupAnswer email)
  createAccount email := asking send (creationRequest users key email) creationAnswer

theorem exchange_ok (send : Sender σ) (users : Url) (request : Url → Request)
    (read : Response → Except ProviderFault Account) :
    exchange send (.ok users) request read = asking send (request users) read := by
  funext w
  have hsend : send (request users) w = ((send (request users) w).1, (send (request users) w).2) :=
    rfl
  show (send (request users) >>= _) w =
    (answered read (send (request users) w).1, (send (request users) w).2)
  rw [bind_of_eq hsend]
  cases (send (request users) w).1 <;> rfl

/-- Where requests can be made the provider makes them. -/
theorem provider_eq_providerAt {base key : String} {users : Url} (send : Sender σ)
    (h : IsEndpoint base key users) : provider send base key = providerAt send users key := by
  simp only [provider, providerAt, usersEndpoint_eq_ok_iff.mpr h, exchange_ok]

/-- Sends requests and keeps them in order. -/
def heard (send : Sender σ) : Sender (σ × List Request) := fun q s =>
  ((send q s.1).1, ((send q s.1).2, s.2 ++ [q]))

/-! ## How a resolution goes -/

/-- What the answer to the question makes of an email that is not unknown: the identifier of the
account that is picked, or a failure if there is no list to pick from. -/
def Adopts (email : String) (reply : Except RequestFault Response)
    (result : Except Failure String) : Prop :=
  (∃ accounts a, Lists reply accounts ∧ Picked email accounts a ∧ result = .ok a.id) ∨
    (∀ accounts, ¬ Lists reply accounts) ∧ ∃ cause, result = .error (.resolution email cause)

/-- What the answer to the wish makes of an unknown email: the identifier of the new account, or a
failure if there is none. -/
def Registers (email : String) (reply : Except RequestFault Response)
    (result : Except Failure String) : Prop :=
  (∃ a, Creates reply a ∧ result = .ok a.id) ∨
    (∀ a, ¬ Creates reply a) ∧ ∃ cause, result = .error (.resolution email cause)

theorem ends_asking {send : Sender σ} {q : Request}
    {read : Response → Except ProviderFault Account} {w : σ}
    {Q : Except ProviderFault Account → σ → Prop} :
    Ends (asking send q read) w Q ↔ Q (answered read (send q w).1) (send q w).2 := Iff.rfl

/-- A blank email is refused at once. -/
theorem resolveIdentity_blank (provider : Provider σ) {email : String} (r : Run σ)
    (hblank : trim email = "") :
    Ends (resolveIdentity provider email) r fun result r' =>
      result = .error (.resolution "" (.invalidResponse .noEmail)) ∧ r'.world = r.world := by
  unfold resolveIdentity
  dsimp only
  rw [if_pos (by simp [hblank])]
  exact ⟨rfl, rfl⟩

/-- Where no request can be made the email is not resolved, and nothing is sent. -/
theorem resolveIdentity_unmade {base key : String} (send : Sender σ) (email : String) (r : Run σ)
    (h : ∀ users, ¬ IsEndpoint base key users) :
    Ends (resolveIdentity (provider send base key) email) r fun result r' =>
      (∃ cause, result = .error (.resolution (trim email) cause)) ∧ r'.world = r.world := by
  obtain ⟨fault, hfault⟩ := usersEndpoint_eq_error h
  by_cases hblank : trim email = ""
  · rw [hblank]
    exact (resolveIdentity_blank _ r hblank).mono fun _ _ ⟨hresult, hworld⟩ =>
      ⟨⟨_, hresult⟩, hworld⟩
  · unfold resolveIdentity
    dsimp only
    rw [if_neg (by simpa using hblank), ends_bind, ends_call]
    simp only [provider, hfault]
    exact ⟨⟨_, rfl⟩, rfl⟩

section Course

variable (send : Sender σ) (users : Url) (key email : String) (r : Run σ)

/-- After an answer that does not say that nobody is known there is no other request. -/
theorem resolveIdentity_known (hblank : trim email ≠ "")
    (hknown : ¬ KnowsNobody (trim email)
      (send (lookupRequest users key (trim email)) r.world).1) :
    Ends (resolveIdentity (providerAt send users key) email) r fun result r' =>
      Adopts (trim email) (send (lookupRequest users key (trim email)) r.world).1 result ∧
        r'.world = (send (lookupRequest users key (trim email)) r.world).2 := by
  unfold resolveIdentity
  dsimp only
  generalize trim email = e at hblank hknown ⊢
  rw [if_neg (by simpa using hblank), ends_bind, ends_call]
  show Ends (asking send (lookupRequest users key e) (lookupAnswer e)) r.world _
  rw [ends_asking]
  generalize send (lookupRequest users key e) r.world = answer at hknown ⊢
  have hlooked := looked e answer.1
  generalize answered (lookupAnswer e) answer.1 = found at hlooked ⊢
  have hfound : found ≠ .error .notFound := fun h => hknown (hlooked.knowsNobody_iff.mpr h)
  cases hlooked with
  | unknown hreply hstatus => exact absurd rfl hfound
  | picked hlists hpicked => exact ⟨.inl ⟨_, _, hlists, hpicked, rfl⟩, rfl⟩
  | others hlists hothers => exact absurd rfl hfound
  | @failed cause hstatus hlists hcause =>
    cases cause with
    | notFound => exact absurd rfl hcause
    | _ => exact ⟨.inr ⟨hlists, _, rfl⟩, rfl⟩

/-- After an answer that says that nobody is known an account is wished for. -/
theorem resolveIdentity_unknown (hblank : trim email ≠ "")
    (hunknown : KnowsNobody (trim email)
      (send (lookupRequest users key (trim email)) r.world).1) :
    Ends (resolveIdentity (providerAt send users key) email) r fun result r' =>
      let w := (send (lookupRequest users key (trim email)) r.world).2
      Registers (trim email) (send (creationRequest users key (trim email)) w).1 result ∧
        r'.world = (send (creationRequest users key (trim email)) w).2 := by
  unfold resolveIdentity
  dsimp only
  generalize trim email = e at hblank hunknown ⊢
  rw [if_neg (by simpa using hblank), ends_bind, ends_call]
  show Ends (asking send (lookupRequest users key e) (lookupAnswer e)) r.world _
  rw [ends_asking, (looked e _).knowsNobody_iff.mp hunknown]
  generalize (send (lookupRequest users key e) r.world).2 = w
  show Ends (call (asking send (creationRequest users key e) creationAnswer) >>= _) _ _
  rw [ends_bind, ends_call, ends_asking]
  dsimp only
  generalize send (creationRequest users key e) w = answer
  cases hcreated : answered creationAnswer answer.1 with
  | ok a => exact ⟨.inl ⟨a, creation_eq_ok_iff.mp hcreated, rfl⟩, rfl⟩
  | error cause =>
    refine ⟨.inr ⟨fun a ha => ?_, cause, rfl⟩, rfl⟩
    rw [creation_eq_ok_iff.mpr ha] at hcreated
    contradiction

end Course

/-! ## What a resolution asks -/

section Requests

variable (send : Sender σ) (base key email : String) (w : σ)

/-- The requests that resolving an email sends, in order. -/
def requests : List Request :=
  (resolveIdentity (provider (heard send) base key) email (.start (w, []))).2.world.2

/-- Keeping the requests does not change what comes of one. -/
theorem exchange_heard (endpoint : Except RequestFault Url) (request : Url → Request)
    (read : Response → Except ProviderFault Account) :
    Agree (fun (s : σ × List Request) w => s.1 = w)
      (exchange (heard send) endpoint request read) (exchange send endpoint request read) := by
  cases endpoint with
  | error fault => exact .pure
  | ok users =>
    rw [exchange_ok, exchange_ok]
    rintro s _ rfl
    exact ⟨rfl, rfl⟩

/-- Keeping the requests changes neither the result nor the world nor what is told. -/
theorem resolveIdentity_heard :
    let kept := resolveIdentity (provider (heard send) base key) email (.start (w, []))
    let plain := resolveIdentity (provider send base key) email (.start w)
    kept.1 = plain.1 ∧ kept.2.world.1 = plain.2.world ∧ kept.2.journal = plain.2.journal := by
  have hagrees : (provider (heard send) base key).Agrees (fun s w => s.1 = w)
      (provider send base key) := by
    refine ⟨rfl, fun email => ?_, fun email => ?_⟩ <;>
    · dsimp only [provider]
      exact exchange_heard _ _ _ _
  obtain ⟨hresult, hend⟩ := agree_resolveIdentity joinsTelling_eq hagrees email
    (.start (w, [])) (.start w) ⟨rfl, rfl⟩
  exact ⟨hresult, hend.world, hend.journal⟩

end Requests

/-- How an email `e` without blanks around it is resolved by requests at the address of the users,
from a world `w`. -/
structure Asked (send : Sender σ) (users : Url) (key e : String) (w : σ)
    (result : Except Failure String) (sent : List Request) : Prop where
  /-- Nothing is asked for an empty email. -/
  blank : e = "" → sent = [] ∧ ∃ cause, result = .error (.resolution "" cause)
  /-- If the answer does not say that nobody is known, the question is all that is asked. -/
  known : e ≠ "" → ¬ KnowsNobody e (send (lookupRequest users key e) w).1 →
    sent = [lookupRequest users key e] ∧ Adopts e (send (lookupRequest users key e) w).1 result
  /-- If it says so, the wish follows the question. -/
  unknown : e ≠ "" → KnowsNobody e (send (lookupRequest users key e) w).1 →
    sent = [lookupRequest users key e, creationRequest users key e] ∧
      Registers e
        (send (creationRequest users key e) (send (lookupRequest users key e) w).2).1 result
  /-- The question asks for the email. -/
  question : IsQuestion users key e (lookupRequest users key e)
  /-- The wish is for an account with the email. -/
  wish : IsWish users key e (creationRequest users key e)

/-- Where requests can be made an email is resolved as `Asked` says. -/
theorem resolveIdentity_asked {base key : String} {users : Url} (send : Sender σ)
    (h : IsEndpoint base key users) (email : String) (w : σ) :
    Asked send users key (trim email) w
      (resolveIdentity (provider send base key) email (.start w)).1
      (requests send base key email w) := by
  unfold requests
  rw [provider_eq_providerAt send h, provider_eq_providerAt (heard send) h]
  refine ⟨fun hblank => ?_, fun hblank hknown => ?_, fun hblank hunknown => ?_,
    lookupRequest_isQuestion .., creationRequest_isWish ..⟩
  · obtain ⟨-, hworld⟩ := resolveIdentity_blank (providerAt (heard send) users key)
      (.start (w, [])) hblank
    obtain ⟨hresult, -⟩ := resolveIdentity_blank (providerAt send users key) (.start w) hblank
    exact ⟨congrArg Prod.snd hworld, _, hresult⟩
  · obtain ⟨-, hworld⟩ := resolveIdentity_known (heard send) users key email (.start (w, []))
      hblank hknown
    obtain ⟨hresult, -⟩ := resolveIdentity_known send users key email (.start w) hblank hknown
    exact ⟨congrArg Prod.snd hworld, hresult⟩
  · obtain ⟨-, hworld⟩ := resolveIdentity_unknown (heard send) users key email (.start (w, []))
      hblank hunknown
    obtain ⟨hresult, -⟩ := resolveIdentity_unknown send users key email (.start w) hblank hunknown
    exact ⟨congrArg Prod.snd hworld, hresult⟩

/-- Where no request can be made none is sent, and the email is not resolved. -/
theorem resolveIdentity_unasked {base key : String} (send : Sender σ)
    (h : ∀ users, ¬ IsEndpoint base key users) (email : String) (w : σ) :
    requests send base key email w = [] ∧ ∃ cause,
      (resolveIdentity (provider send base key) email (.start w)).1 =
        .error (.resolution (trim email) cause) := by
  unfold requests
  obtain ⟨-, hworld⟩ := resolveIdentity_unmade (heard send) email (.start (w, [])) h
  obtain ⟨hresult, -⟩ := resolveIdentity_unmade send email (.start w) h
  exact ⟨congrArg Prod.snd hworld, hresult⟩

/-- Resolving an email creates an account only if the service knows nobody: for every email and
whatever the service answers, nothing is asked for a blank email, and else the question for the
email is asked once and the wish for an account follows exactly if the answer says that nobody is
known. The result is then the identifier of the new account, and else that of the account that is
picked from the list; where there is no such account it is a failure. Requests can be made for any
email at a base address with a host and with a key that a request can carry; at no other is anything
sent. The requests are those of a run in which they are kept, and which does the same as the one in
which they are not. -/
theorem resolveIdentity_asks (send : Sender σ) (base key email : String) (w : σ) :
    let ended := resolveIdentity (provider send base key) email (.start w)
    let kept := resolveIdentity (provider (heard send) base key) email (.start (w, []))
    let sent := requests send base key email w
    (kept.1 = ended.1 ∧ kept.2.world.1 = ended.2.world ∧ kept.2.journal = ended.2.journal) ∧
      (∀ users, IsEndpoint base key users → Asked send users key (trim email) w ended.1 sent) ∧
      ((∀ users, ¬ IsEndpoint base key users) →
        sent = [] ∧ ∃ cause, ended.1 = .error (.resolution (trim email) cause)) := by
  dsimp only
  exact ⟨resolveIdentity_heard send base key email w,
    fun users h => resolveIdentity_asked send h email w,
    fun h => resolveIdentity_unasked send h email w⟩

open Network in
/-- The service lists an account of somebody else, with a note that is no text, and then creates
one: two requests are sent for the email without the blanks around it. A service that lists the
account in capitals is asked once. -/
theorem resolveIdentity_asks_localhost :
    let users : Url := ⟨"http".toList, some ⟨[], none, .name "localhost".toList, none⟩,
      .segments ["v1".toList, "users".toList], none, none⟩
    let other := "[\x7b\"id\":\"u-7\",\"email\":\"grace@example.org\",\"note\":\"".toUTF8.toList ++
      [0xFF] ++ "\"\x7d]".toUTF8.toList
    let created := "\x7b\"id\":\"u-9\"\x7d".toUTF8.toList
    let own := "[\x7b\"id\":\"u-8\",\"email\":\"ADA@example.org\"\x7d]".toUTF8.toList
    let knowsNobody : ScriptedServer :=
      ⟨.up, [.answer ⟨200, none, other⟩, .answer ⟨201, none, created⟩], []⟩
    let knowsAda : ScriptedServer := ⟨.up, [.answer ⟨200, none, own⟩], []⟩
    let get := lookupRequest users "sk_test" "ada@example.org"
    let post := creationRequest users "sk_test" "ada@example.org"
    let service := provider ScriptedServer.send "http://localhost/v1/" "sk_test"
    let sent := requests ScriptedServer.send "http://localhost/v1/" "sk_test" " ada@example.org "
    get.url.text = "http://localhost/v1/users?email=ada%40example.org" ∧
      (sent knowsNobody = [get, post] ∧
        (resolveIdentity service " ada@example.org " (.start knowsNobody)).1 = .ok "u-9") ∧
      sent knowsAda = [get] ∧
        (resolveIdentity service " ada@example.org " (.start knowsAda)).1 = .ok "u-8" := by
  intro users other created own knowsNobody knowsAda get post service sent
  have hendpoint : IsEndpoint "http://localhost/v1/" "sk_test" users :=
    usersEndpoint_eq_ok_iff.mp (by decide +kernel)
  have hasked : ∀ server : ScriptedServer,
      Asked ScriptedServer.send users "sk_test" "ada@example.org" server
        (resolveIdentity service " ada@example.org " (.start server)).1 (sent server) := by
    intro server
    have htrim : trim " ada@example.org " = "ada@example.org" := by decide +kernel
    rw [← htrim]
    exact (resolveIdentity_asks ScriptedServer.send "http://localhost/v1/" "sk_test"
      " ada@example.org " server).2.1 users hendpoint
  have hnobody : KnowsNobody "ada@example.org" (ScriptedServer.send get knowsNobody).1 := by
    refine .inr ⟨[⟨"u-7", some "grace@example.org"⟩], ⟨⟨200, none, other⟩, ?_, rfl, ?_⟩, ?_⟩
    · decide +kernel
    · decide +kernel
    · rintro a ha
      rw [List.mem_singleton.mp ha]
      exact ⟨_, rfl, by decide +kernel⟩
  have hada : ¬ KnowsNobody "ada@example.org" (ScriptedServer.send get knowsAda).1 := by
    have hlists : Lists (ScriptedServer.send get knowsAda).1 [⟨"u-8", some "ADA@example.org"⟩] :=
      ⟨⟨200, none, own⟩, by decide +kernel, rfl, by decide +kernel⟩
    have hpicked : Picked "ada@example.org" [⟨"u-8", some "ADA@example.org"⟩]
        ⟨"u-8", some "ADA@example.org"⟩ := pickAccount_eq_some_iff.mp (by decide +kernel)
    exact not_knowsNobody_of_picked hlists hpicked
  have hunknown := (hasked knowsNobody).unknown (by decide) hnobody
  have hknown := (hasked knowsAda).known (by decide) hada
  exact ⟨by decide +kernel, ⟨hunknown.1, by decide +kernel⟩, hknown.1, by decide +kernel⟩

end Rekey.Rest
