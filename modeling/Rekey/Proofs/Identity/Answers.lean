import Rekey.Identity.Rest

/-!
# What an answer gives

Among the accounts of an answer the first that has the email is picked, and the first without an
email if none has it. An answer says that nobody is known when it has the status for that, or when
it lists accounts of which every one has another email. A creation gives an account whose
identifier is not empty. Everything else is a failure, and no failure says that nobody is known.
-/

namespace Rekey

variable {email : String} {accounts : List Account} {a : Account}

/-! ## Picking an account -/

/-- The element is the first one that satisfies `p`. -/
def IsFirst {α : Type} (p : α → Prop) (as : List α) (a : α) : Prop :=
  p a ∧ ∃ before after, as = before ++ a :: after ∧ ∀ b ∈ before, ¬ p b

/-- The account has the email, up to the case of ASCII letters. -/
def Account.HasEmail (email : String) (a : Account) : Prop :=
  ∃ e, a.email = some e ∧ foldCase e = foldCase email

/-- The account has an email, but another one. -/
def Account.HasOther (email : String) (a : Account) : Prop :=
  ∃ e, a.email = some e ∧ foldCase e ≠ foldCase email

/-- The account that is picked for an email: the first that has it, or if none has it the first
without an email. -/
def Picked (email : String) (accounts : List Account) (a : Account) : Prop :=
  IsFirst (Account.HasEmail email) accounts a ∨
    (∀ b ∈ accounts, ¬ b.HasEmail email) ∧ IsFirst (fun b => b.email = none) accounts a

theorem Account.carries_iff : a.carries email = true ↔ a.HasEmail email := by
  unfold carries HasEmail
  cases a.email <;> simp

/-- An account has another email exactly if it has an email, but not this one. -/
theorem Account.hasOther_iff : a.HasOther email ↔ ¬ a.HasEmail email ∧ a.email ≠ none := by
  unfold HasOther HasEmail
  cases a.email <;> simp

theorem find?_eq_some_iff_isFirst {α : Type} {p : α → Bool} {q : α → Prop}
    (hpq : ∀ b, p b = true ↔ q b) {as : List α} {a : α} :
    as.find? p = some a ↔ IsFirst q as a := by
  simp [List.find?_eq_some_iff_append, IsFirst, ← hpq]

theorem find?_carries_eq_none_iff :
    accounts.find? (·.carries email) = none ↔ ∀ b ∈ accounts, ¬ b.HasEmail email := by
  simp [List.find?_eq_none, Account.carries_iff]

/-- The account that an answer gives is the one that is picked. -/
theorem pickAccount_eq_some_iff :
    pickAccount accounts email = some a ↔ Picked email accounts a := by
  unfold pickAccount Picked
  rw [← find?_carries_eq_none_iff, ← find?_eq_some_iff_isFirst fun _ => Account.carries_iff,
    ← find?_eq_some_iff_isFirst fun _ => Option.isNone_iff_eq_none]
  cases accounts.find? (·.carries email) <;> simp

/-- An answer gives no account exactly if all its accounts have other emails. -/
theorem pickAccount_eq_none_iff :
    pickAccount accounts email = none ↔ ∀ b ∈ accounts, b.HasOther email := by
  simp only [Account.hasOther_iff, forall_and]
  unfold pickAccount
  rw [← find?_carries_eq_none_iff]
  cases accounts.find? (·.carries email) <;> simp [List.find?_eq_none]

/-- One account is picked. -/
theorem Picked.unique {b : Account} (h : Picked email accounts a) (h' : Picked email accounts b) :
    a = b :=
  Option.some.inj ((pickAccount_eq_some_iff.mpr h).symm.trans (pickAccount_eq_some_iff.mpr h'))

/-- An account is picked only where not all accounts have other emails. -/
theorem Picked.not_others (h : Picked email accounts a) : ¬ ∀ b ∈ accounts, b.HasOther email := by
  intro hothers
  have hnone := pickAccount_eq_none_iff.mpr hothers
  rw [pickAccount_eq_some_iff.mpr h] at hnone
  contradiction

end Rekey

namespace Rekey.Rest

open Rekey.Network (Request Response)

/-! ## Answers to a lookup -/

variable {email : String} {reply : Except RequestFault Response} {accounts : List Account}
  {a : Account}

/-- The answer lists accounts. -/
def Lists (reply : Except RequestFault Response) (accounts : List Account) : Prop :=
  ∃ r, reply = .ok r ∧ r.isSuccess = true ∧ readBody (Json.readList Account.read) r = .ok accounts

/-- The answer says that nobody has the email: by its status, or by a list of accounts of which
every one has another email. -/
def KnowsNobody (email : String) (reply : Except RequestFault Response) : Prop :=
  (∃ r, reply = .ok r ∧ r.status = 404) ∨
    ∃ accounts, Lists reply accounts ∧ ∀ a ∈ accounts, a.HasOther email

/-- The answer gives a new account. -/
def Creates (reply : Except RequestFault Response) (a : Account) : Prop :=
  ∃ r, reply = .ok r ∧ r.isSuccess = true ∧ readBody Account.read r = .ok a ∧ a.id ≠ ""

/-- What an answer means by `read`; a request without one failed. -/
def answered (read : Response → Except ProviderFault Account) :
    Except RequestFault Response → Except ProviderFault Account
  | .error f => .error (.request f)
  | .ok r => read r

/-- A body that cannot be read is not taken for an answer that knows nobody. -/
theorem readBody_ne_notFound {α : Type} {read : Json.Reader α} {r : Response} :
    readBody read r ≠ .error .notFound := by
  unfold readBody
  split <;> simp

theorem lists_ok_iff {r : Response} : Lists (.ok r) accounts ↔
    r.isSuccess = true ∧ readBody (Json.readList Account.read) r = .ok accounts := by
  simp [Lists]

/-- An answer lists accounts in one way. -/
theorem Lists.unique {accounts' : List Account} (h : Lists reply accounts)
    (h' : Lists reply accounts') : accounts = accounts' := by
  obtain ⟨r, rfl, -, hread⟩ := h
  exact Except.ok.inj (hread.symm.trans (lists_ok_iff.mp h').2)

/-- An answer that lists accounts is granted, so it has not the status for an unknown email. -/
theorem Lists.status_ne {r : Response} (h : Lists (.ok r) accounts) : r.status ≠ 404 := by
  intro hstatus
  have hsuccess := (lists_ok_iff.mp h).1
  simp [Response.isSuccess, hstatus] at hsuccess

/-- What a lookup comes to, by the kind of its answer. -/
inductive Looked (email : String) (reply : Except RequestFault Response) :
    Except ProviderFault Account → Prop
  | unknown {r : Response} (hreply : reply = .ok r) (hstatus : r.status = 404) :
      Looked email reply (.error .notFound)
  | picked {accounts : List Account} {a : Account} (hlists : Lists reply accounts)
      (hpicked : Picked email accounts a) : Looked email reply (.ok a)
  | others {accounts : List Account} (hlists : Lists reply accounts)
      (hothers : ∀ a ∈ accounts, a.HasOther email) : Looked email reply (.error .notFound)
  | failed {cause : ProviderFault} (hstatus : ∀ r, reply = .ok r → r.status ≠ 404)
      (hlists : ∀ accounts, ¬ Lists reply accounts) (hcause : cause ≠ .notFound) :
      Looked email reply (.error cause)

/-- Each answer to a lookup is of one of these kinds. -/
theorem looked (email : String) (reply : Except RequestFault Response) :
    Looked email reply (answered (lookupAnswer email) reply) := by
  cases reply with
  | error f => exact .failed nofun (fun _ ⟨_, h, _⟩ => nomatch h) (by simp)
  | ok r =>
    simp only [answered, lookupAnswer]
    split
    · rename_i hstatus
      exact .unknown rfl hstatus
    rename_i hstatus
    have hstatus' : ∀ r', (.ok r : Except RequestFault Response) = .ok r' → r'.status ≠ 404 := by
      rintro _ ⟨⟩
      exact hstatus
    split
    · rename_i hsuccess
      cases hread : readBody (Json.readList Account.read) r with
      | error cause =>
        refine .failed hstatus' (fun accounts hlists => ?_)
          fun hcause => readBody_ne_notFound (hcause ▸ hread)
        rw [(lists_ok_iff.mp hlists).2] at hread
        contradiction
      | ok accounts =>
        have hlists : Lists (.ok r) accounts := lists_ok_iff.mpr ⟨hsuccess, hread⟩
        dsimp only
        cases hpick : pickAccount accounts email with
        | some a => exact .picked hlists (pickAccount_eq_some_iff.mp hpick)
        | none => exact .others hlists (pickAccount_eq_none_iff.mp hpick)
    · rename_i hfailure
      exact .failed hstatus' (fun accounts hlists => hfailure (lists_ok_iff.mp hlists).1)
        (by simp [refusal])

/-- A lookup finds nobody exactly if its answer says that nobody is known. -/
theorem Looked.knowsNobody_iff {found : Except ProviderFault Account}
    (h : Looked email reply found) : KnowsNobody email reply ↔ found = .error .notFound := by
  cases h with
  | unknown hreply hstatus => exact iff_of_true (.inl ⟨_, hreply, hstatus⟩) rfl
  | picked hlists hpicked =>
    refine iff_of_false ?_ nofun
    rintro (⟨r, rfl, hstatus⟩ | ⟨accounts', hlists', hothers⟩)
    · exact hlists.status_ne hstatus
    · cases hlists.unique hlists'
      exact hpicked.not_others hothers
  | others hlists hothers => exact iff_of_true (.inr ⟨_, hlists, hothers⟩) rfl
  | failed hstatus hlists hcause =>
    refine iff_of_false ?_ fun h => hcause (Except.error.inj h)
    rintro (⟨r, hreply, h404⟩ | ⟨accounts, hlisted, -⟩)
    · exact hstatus r hreply h404
    · exact hlists accounts hlisted

/-- An answer from which an account is picked does not say that nobody is known. -/
theorem not_knowsNobody_of_picked (hlists : Lists reply accounts)
    (hpicked : Picked email accounts a) : ¬ KnowsNobody email reply := by
  rw [(Looked.picked hlists hpicked).knowsNobody_iff]
  exact nofun

/-! ## Answers to a creation -/

/-- A creation gives the account that its answer creates. -/
theorem creation_eq_ok_iff : answered creationAnswer reply = .ok a ↔ Creates reply a := by
  cases reply with
  | error f => simp [answered, Creates]
  | ok r =>
    simp only [answered, creationAnswer, Creates, Except.ok.injEq, exists_eq_left']
    cases hsuccess : r.isSuccess with
    | false => simp
    | true =>
      cases hread : readBody Account.read r with
      | error cause => simp
      | ok created =>
        constructor
        · intro h
          by_cases hid : created.id = ""
          · simp [hid] at h
          · obtain rfl : created = a := by simpa [hid] using h
            exact ⟨rfl, rfl, hid⟩
        · rintro ⟨-, hcreated, hid⟩
          obtain rfl := Except.ok.inj hcreated
          simp [hid]

end Rekey.Rest
