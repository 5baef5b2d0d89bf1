import GssProxy.Interposer.Sides

/-!
# Credentials in credential caches

A remote credential is kept as a ticket in a Kerberos credential cache.  A cache in a file is initialized
and used; in a collection a member of the client's principal is looked for, and else a new one is made.
To read back, the name of the cache is resolved, for a collection to its primary member.

A member of a collection of type `DIR` is a file too: entries are appended, and the first one is found.
Yet only a new member is initialized.  Which member is found is libkrb5's choice, a parameter.

* `stored_iff`: what is read back after a sequence of stores.
* `updated_ticket_not_read`: a ticket that is stored again in a directory is not read back.
-/

namespace GssProxy.Interposer.StoredCreds

open Codec Gss

def GPKRB_MAX_CRED_SIZE : Nat := 1024 * 512

def ENOSPC : UInt32 := 28

def NOTFOUND : UInt32 := 2529639053

structure Entry (P : Type) where
  client : P
  server : P
  ticket : Bytes

structure Cache (P : Type) where
  principal : P
  entries : List (Entry P)

/-- The caches that the default name reaches, with the primary member of each type. -/
structure Caches (P I : Type) where
  files : Bytes → Option (Cache P)
  members : List (I × Cache P)
  primary : Bytes → I

def Caches.principals {P I : Type} (s : Caches P I) : List (I × P) :=
  s.members.map fun m => (m.1, m.2.principal)

/-- The functions of libkrb5, as they are documented. -/
structure Krb5 (P I : Type) [DecidableEq I] where
  defaultName : Bytes
  parseName : Bytes → Except UInt32 P
  server : P
  type : I → Bytes
  /-- `krb5_cc_resolve`: the member that a name is for, by the primary members -/
  resolve : Bytes → (Bytes → I) → I
  /-- whether collections of a type have a primary member that can be changed -/
  switches : Bytes → Bool
  cacheMatch : Caches P I → P → Option I
  newUnique : Caches P I → Bytes → I
  match_some : ∀ {s : Caches P I} {client i}, cacheMatch s client = some i → (i, client) ∈ s.principals
  match_none : ∀ {s : Caches P I} {client}, cacheMatch s client = none → ∀ i, (i, client) ∉ s.principals
  /-- a member that is found is found again, also after it has become the primary one -/
  match_again : ∀ {s s' : Caches P I} {client i}, cacheMatch s client = some i →
    s'.principals = s.principals →
    (s'.primary = s.primary ∨ s'.primary = Function.update s.primary (type i) i) →
    cacheMatch s' client = some i
  new_unique : ∀ (s : Caches P I) (type : Bytes), s.members.lookup (newUnique s type) = none

def filePrefix : Bytes := "FILE:".toList.map fun c => UInt8.ofNat c.toNat

def dirType : Bytes := "DIR".toList.map fun c => UInt8.ofNat c.toNat

def isFile (name : Bytes) : Bool := filePrefix.isPrefixOf name || !name.contains 58

def filePath (name : Bytes) : Bytes := if filePrefix.isPrefixOf name then name.drop 5 else name

def ccType (name : Bytes) : Bytes := name.takeWhile (· ≠ 58)

/-- A ticket, and whether it is to be the default one. -/
abbrev Stored := Bytes × Bool

section

variable {P I : Type} [DecidableEq P] [DecidableEq I] (krb5 : Krb5 P I)

/-- `krb5_cc_store_cred`: a file is appended to. -/
def Cache.store (fileBased : Bool) (cache : Cache P) (e : Entry P) : Cache P :=
  { cache with entries :=
      if fileBased then cache.entries ++ [e]
      else cache.entries.filter (fun e' => ¬ (e'.client = e.client ∧ e'.server = e.server)) ++ [e] }

/-- `krb5_cc_retrieve_cred`: the first entry of the client and the server. -/
def Cache.retrieve (cache : Cache P) (client server : P) : Option Bytes :=
  (cache.entries.find? fun e => e.client = client ∧ e.server = server).map Entry.ticket

variable (fileBased : Bool) (i : I) (port : Port) (credStore : List (String × Bytes)) (name display : Bytes)
  (e : Entry P) (storeAsDefault : Bool) (client : P) (s : Caches P I) (st : Stored)

def Caches.storeCred : Caches P I :=
  { s with members := s.members.map fun m => if m.1 = i then (m.1, m.2.store fileBased e) else m }

/-- A new member, initialized for the client. -/
def Caches.ccInitialize : Caches P I :=
  { s with members := s.members ++ [(i, ⟨client, []⟩)] }

/-- `krb5_cc_switch`. -/
def ccSwitch : Caches P I :=
  if krb5.switches (krb5.type i) then
    { s with primary := Function.update s.primary (krb5.type i) i }
  else s

/-- The stores of `gpp_store_remote_creds` into a collection. -/
def storeMember : Caches P I :=
  let (i, s) := match krb5.cacheMatch s e.client with
    | some i => (i, s)
    | none =>
      let i := krb5.newUnique s (ccType name)
      (i, s.ccInitialize i e.client)
  let s := s.storeCred (krb5.type i = dirType) i e
  if storeAsDefault then ccSwitch krb5 i s else s

def nameText : Except UInt32 Bytes :=
  match port with
  | .c => .ok (display.takeWhile (· ≠ 0))
  | .rust => if 0 ∈ display then .error EINVAL else .ok display

/-- The value of the first `ccache` entry, or else the default name. -/
def ccName : Bytes :=
  ((credStore.find? fun entry => entry.1 = "ccache").map Prod.snd).getD krb5.defaultName

/-- The principal in `gpp_construct_cred`. -/
def clientOf : Except UInt32 P := do
  krb5.parseName (← nameText port display)

def putTicket : Caches P I :=
  let e : Entry P := ⟨client, krb5.server, st.1⟩
  if isFile name then
    { s with files := Function.update s.files (filePath name) (some ⟨client, [e]⟩) }
  else storeMember krb5 name e st.2 s

/-- `gpp_store_remote_creds` and `store_remote_cred`. -/
def storeRemoteCred : Except UInt32 (Caches P I) := do
  let client ← clientOf krb5 port display
  if GPKRB_MAX_CRED_SIZE < st.1.length then throw ENOSPC
  return putTicket krb5 (ccName krb5 credStore) client s st

/-- `krb5_cc_resolve`. -/
def ccResolve : Option (Cache P) :=
  if isFile name then s.files (filePath name)
  else s.members.lookup (krb5.resolve name s.primary)

/-- `gppint_retrieve_remote_creds` and `retrieve_remote_cred`, up to the decoding of the ticket. -/
def retrieveRemoteCred : Except UInt32 Bytes := do
  let client ← clientOf krb5 port display
  match (ccResolve krb5 name s).bind fun cache => cache.retrieve client krb5.server with
  | some ticket => return ticket
  | none => throw NOTFOUND

/-! ## A sequence of stores -/

/-- One store after the other. -/
def storeAll (stores : List Stored) : Except UInt32 (Caches P I) :=
  stores.foldlM (storeRemoteCred krb5 port credStore display) s

def Caches.read (s : Caches P I) (client server : P) (i : I) : Option Bytes :=
  (s.members.lookup i).bind fun cache => cache.retrieve client server

/-- The member that credentials of the client are stored in. -/
def target : I :=
  (krb5.cacheMatch s client).getD (krb5.newUnique s (ccType name))

/-- The primary members after the member has been stored in, as the default one or not. -/
def switched (i : I) (asDefault : Bool) (primary : Bytes → I) : Bytes → I :=
  if asDefault && krb5.switches (krb5.type i) then Function.update primary (krb5.type i) i else primary

/-- What is found under the name, by the state before the stores: the name is for the member that is
    stored in or for another one, and in a file the oldest entry is found. -/
def finalTicket (first : Stored) (rest : List Stored) : Option Bytes :=
  let i := target krb5 name client s
  let last := ((first :: rest).getLast (List.cons_ne_nil _ _)).1
  let found := krb5.resolve name (switched krb5 i ((first :: rest).any Prod.snd) s.primary)
  if isFile name then some last
  else if found ≠ i then s.read client krb5.server found
  else if krb5.type i = dirType then (s.read client krb5.server i).or (some first.1)
  else some last

variable {krb5} {s s' : Caches P I} {e : Entry P} {client server : P} {name : Bytes} {i : I}

theorem retrieve_store (fileBased : Bool) (cache : Cache P) (e : Entry P) :
    (cache.store fileBased e).retrieve e.client e.server =
      if fileBased then (cache.retrieve e.client e.server).or (some e.ticket) else some e.ticket := by
  cases fileBased with
  | true =>
    simp only [Cache.store, Cache.retrieve, if_true, List.find?_append]
    cases cache.entries.find? fun e' => e'.client = e.client ∧ e'.server = e.server <;> simp
  | false =>
    have hn : (cache.entries.filter fun e' => ¬ (e'.client = e.client ∧ e'.server = e.server)).find?
        (fun e' => e'.client = e.client ∧ e'.server = e.server) = none := by
      rw [List.find?_eq_none]
      intro e' he'
      simpa only [decide_eq_true_eq] using List.of_mem_filter he'
    simp only [Cache.store, Cache.retrieve, Bool.false_eq_true, if_false, List.find?_append, hn]
    simp

theorem lookup_storeCred (fileBased : Bool) (i j : I) (e : Entry P) (s : Caches P I) :
    (s.storeCred fileBased i e).members.lookup j =
      if j = i then (s.members.lookup i).map (Cache.store fileBased · e) else s.members.lookup j := by
  simp only [Caches.storeCred]
  induction s.members with
  | nil => simp
  | cons m members ih =>
    obtain ⟨k, cache⟩ := m
    by_cases hk : k = i
    · by_cases hj : j = i
      · simp [hk, hj]
      · simp [List.lookup_cons, hk, hj, ih, beq_false_of_ne hj]
    · by_cases hj : j = k
      · simp [hk, hj]
      · simp [List.lookup_cons, hk, ih, beq_false_of_ne hj, beq_false_of_ne (Ne.symm hk)]

theorem read_storeCred (fileBased : Bool) (hi : s.members.lookup i ≠ none) (j : I) :
    (s.storeCred fileBased i e).read e.client e.server j =
      if j = i then
        if fileBased then (s.read e.client e.server i).or (some e.ticket) else some e.ticket
      else s.read e.client e.server j := by
  unfold Caches.read
  rw [lookup_storeCred]
  obtain ⟨cache, hc⟩ := Option.ne_none_iff_exists'.mp hi
  by_cases hj : j = i
  · simp [hj, hc, retrieve_store]
  · simp [hj]

theorem principals_storeCred (fileBased : Bool) :
    (s.storeCred fileBased i e).principals = s.principals := by
  simp only [Caches.principals, Caches.storeCred, List.map_map]
  refine List.map_congr_left fun m _ => ?_
  by_cases hm : m.1 = i <;> simp [hm, Cache.store]

omit [DecidableEq P] in
theorem lookup_of_principal (h : (i, client) ∈ s.principals) : s.members.lookup i ≠ none := by
  obtain ⟨m, hm, heq⟩ := List.mem_map.mp h
  obtain ⟨rfl, -⟩ := Prod.mk.inj heq
  intro hn
  have hne := List.lookup_eq_none_iff.mp hn m hm
  simp at hne

omit [DecidableEq P] in
/-- A member of the client is found if it is the only one. -/
theorem cacheMatch_only (h : ∀ j, (j, client) ∈ s.principals ↔ j = i) :
    krb5.cacheMatch s client = some i := by
  cases hm : krb5.cacheMatch s client with
  | none => exact absurd ((h i).mpr rfl) (krb5.match_none hm i)
  | some j => rw [(h j).mp (krb5.match_some hm)]

omit [DecidableEq P] in
theorem switch_spec (i : I) (asDefault : Bool) (s : Caches P I) :
    (if asDefault then ccSwitch krb5 i s else s).members = s.members ∧
      (if asDefault then ccSwitch krb5 i s else s).primary = switched krb5 i asDefault s.primary := by
  cases asDefault with
  | false => simp [switched]
  | true => cases hs : krb5.switches (krb5.type i) <;> simp [ccSwitch, switched, hs]

omit [DecidableEq P] in
theorem lookup_ccInitialize (hf : s.members.lookup i = none) (j : I) :
    (s.ccInitialize i client).members.lookup j =
      if j = i then some ⟨client, []⟩ else s.members.lookup j := by
  by_cases hj : j = i
  · subst hj
    simp [Caches.ccInitialize, List.lookup_append, hf]
  · simp [Caches.ccInitialize, List.lookup_append, List.lookup_cons, hj, beq_false_of_ne hj]

/-- One store: the same member is stored in the next time, and only that one is changed. -/
theorem store_spec (name : Bytes) (e : Entry P) (storeAsDefault : Bool) (s : Caches P I) :
    let s' := storeMember krb5 name e storeAsDefault s
    let i := target krb5 name e.client s
    target krb5 name e.client s' = i ∧
    (∀ j, s'.read e.client e.server j =
      if j = i then
        if krb5.type i = dirType then (s.read e.client e.server i).or (some e.ticket)
        else some e.ticket
      else s.read e.client e.server j) ∧ s'.primary = switched krb5 i storeAsDefault s.primary := by
  cases hm : krb5.cacheMatch s e.client with
  | some i =>
    have ht : target krb5 name e.client s = i := by simp [target, hm]
    obtain ⟨hme, hp⟩ := switch_spec i storeAsDefault (s.storeCred (krb5.type i = dirType) i e)
    simp only [ht, storeMember, hm]
    refine ⟨?_, fun j => ?_, hp⟩
    · unfold target
      rw [krb5.match_again hm]
      · rfl
      · rw [Caches.principals, hme]; exact principals_storeCred _
      · rw [hp]
        unfold switched
        split <;> simp [Caches.storeCred]
    · rw [Caches.read, hme]
      refine (read_storeCred _ (lookup_of_principal (krb5.match_some hm)) j).trans ?_
      simp
  | none =>
    have ht : target krb5 name e.client s = krb5.newUnique s (ccType name) := by simp [target, hm]
    have hf := krb5.new_unique s (ccType name)
    simp only [ht, storeMember, hm]
    generalize krb5.newUnique s (ccType name) = i at hf
    obtain ⟨hme, hp⟩ :=
      switch_spec i storeAsDefault ((s.ccInitialize i e.client).storeCred (krb5.type i = dirType) i e)
    have hl := @lookup_ccInitialize _ _ _ s e.client i hf
    refine ⟨?_, fun j => ?_, hp⟩
    · unfold target
      rw [cacheMatch_only fun j => ?_]
      · rfl
      · rw [Caches.principals, hme]
        have hn := krb5.match_none hm
        change (j, e.client) ∈ (Caches.storeCred _ i e (s.ccInitialize i e.client)).principals ↔ _
        rw [principals_storeCred]
        have hpr : (s.ccInitialize i e.client).principals = s.principals ++ [(i, e.client)] := by
          simp [Caches.principals, Caches.ccInitialize]
        simp [hpr, hn]
    · rw [Caches.read, hme]
      refine (read_storeCred _ (by simp [hl]) j).trans ?_
      by_cases hj : j = i
      · simp [hj, Caches.read, hl, hf, Cache.retrieve]
      · simp [hj, Caches.read, hl]

/-! ## The whole sequence -/

variable (krb5) in
def storeFold (name : Bytes) (client : P) (stores : List Stored) (s : Caches P I) : Caches P I :=
  stores.foldl (fun s st => storeMember krb5 name ⟨client, krb5.server, st.1⟩ st.2 s) s

theorem storeFold_spec (name : Bytes) (client : P) (s : Caches P I) (first : Stored)
    (rest : List Stored) :
    (∀ j, (storeFold krb5 name client (first :: rest) s).read client krb5.server j =
      if j = target krb5 name client s then
        if krb5.type (target krb5 name client s) = dirType then
          (s.read client krb5.server (target krb5 name client s)).or (some first.1)
        else some ((first :: rest).getLast (List.cons_ne_nil _ _)).1
      else s.read client krb5.server j) ∧ (storeFold krb5 name client (first :: rest) s).primary =
      switched krb5 (target krb5 name client s) ((first :: rest).any Prod.snd) s.primary := by
  induction rest generalizing first s with
  | nil =>
    obtain ⟨-, hr, hp⟩ := store_spec name ⟨client, krb5.server, first.1⟩ first.2 s
    exact ⟨hr, hp.trans (by simp)⟩
  | cons second rest ih =>
    obtain ⟨ht, hr, hp⟩ := store_spec name ⟨client, krb5.server, first.1⟩ first.2 s
    obtain ⟨hr', hp'⟩ := ih
      (storeMember krb5 name ⟨client, krb5.server, first.1⟩ first.2 s) second
    rw [ht] at hr' hp'
    refine ⟨fun j => (hr' j).trans ?_, hp'.trans ?_⟩
    · rw [hr j, hr]
      by_cases hj : j = target krb5 name client s
      · by_cases hd : krb5.type (target krb5 name client s) = dirType <;> simp [hj, hd]
      · simp [hj]
    · rw [hp]
      have ha : (first :: second :: rest).any Prod.snd = (first.2 || (second :: rest).any Prod.snd) :=
        List.any_cons
      rw [ha]
      unfold switched
      cases first.2 <;> cases krb5.switches _ <;> cases (second :: rest).any Prod.snd <;> simp

variable {port : Port} {credStore : List (String × Bytes)} {display : Bytes}
  {first : Stored} {rest stores : List Stored}

theorem storeRemoteCred_ok {st : Stored} (h : storeRemoteCred krb5 port credStore display s st = .ok s') :
    ∃ client, clientOf krb5 port display = .ok client ∧
      s' = putTicket krb5 (ccName krb5 credStore) client s st := by
  unfold storeRemoteCred at h
  cases hc : clientOf krb5 port display with
  | error e => rw [hc] at h; cases h
  | ok client =>
    rw [hc] at h
    by_cases hs : GPKRB_MAX_CRED_SIZE < st.1.length
    · simp [bind, Except.bind, hs, throw, throwThe, MonadExceptOf.throw] at h
    · simp [bind, Except.bind, hs, pure, Except.pure] at h; exact ⟨client, rfl, h.symm⟩

theorem storeAll_ok (hc : clientOf krb5 port display = .ok client)
    (h : storeAll krb5 port credStore display s stores = .ok s') :
    s' = stores.foldl (putTicket krb5 (ccName krb5 credStore) client) s := by
  induction stores generalizing s with
  | nil => exact (Except.ok.inj h).symm
  | cons st stores ih =>
    unfold storeAll at h
    rw [List.foldlM_cons] at h
    cases ho : storeRemoteCred krb5 port credStore display s st with
    | error e => rw [ho] at h; cases h
    | ok s₁ =>
      rw [ho] at h
      obtain ⟨client', hc', rfl⟩ := storeRemoteCred_ok ho
      obtain rfl : client' = client := Except.ok.inj (hc'.symm.trans hc)
      exact ih h

theorem putTicket_collection (hn : isFile name = false) (stores : List Stored) :
    stores.foldl (putTicket krb5 name client) s = storeFold krb5 name client stores s := by
  congr
  funext s st
  simp [putTicket, hn]

theorem putTicket_file (hn : isFile name = true) (first : Stored) (rest : List Stored) :
    ((first :: rest).foldl (putTicket krb5 name client) s).files (filePath name) =
      some ⟨client, [⟨client, krb5.server, ((first :: rest).getLast (List.cons_ne_nil _ _)).1⟩]⟩ := by
  induction rest generalizing s first with
  | nil => simp [putTicket, hn]
  | cons second rest ih =>
    rw [List.foldl_cons, ih, List.getLast_cons (List.cons_ne_nil second rest)]

/-- **What is read back is the ticket stored last exactly if `finalTicket` is**, for both interposers,
    every type of cache, every store and every sequence of stores that succeed. -/
theorem stored_iff (hclient : clientOf krb5 port display = .ok client)
    (h : storeAll krb5 port credStore display s (first :: rest) = .ok s') :
    retrieveRemoteCred krb5 port (ccName krb5 credStore) display s' =
        .ok ((first :: rest).getLast (List.cons_ne_nil _ _)).1 ↔
      finalTicket krb5 (ccName krb5 credStore) client s first rest =
        some ((first :: rest).getLast (List.cons_ne_nil _ _)).1 := by
  obtain rfl := storeAll_ok hclient h
  have hf : (ccResolve krb5 (ccName krb5 credStore) ((first :: rest).foldl
      (putTicket krb5 (ccName krb5 credStore) client) s)).bind
      (fun cache => cache.retrieve client krb5.server) =
      finalTicket krb5 (ccName krb5 credStore) client s first rest := by
    unfold ccResolve finalTicket
    cases hn : isFile (ccName krb5 credStore) with
    | true => simp only [if_true, putTicket_file hn]; simp [Cache.retrieve]
    | false =>
      obtain ⟨hr, hp⟩ := storeFold_spec (ccName krb5 credStore) client s first rest
      simp only [Bool.false_eq_true, if_false, putTicket_collection hn]
      refine (hr _).trans ?_
      split <;> simp_all
  unfold retrieveRemoteCred
  rw [hclient]
  simp only [bind, Except.bind, hf]
  cases finalTicket krb5 (ccName krb5 credStore) client s first rest with
  | none => simp
  | some ticket => simp [pure, Except.pure]

end

def kcmType : Bytes := [75, 67, 77]

/-- A library that walks the members in their order, those with even numbers being directories. -/
def walkKrb5 : Krb5 Bytes Nat where
  defaultName := dirType ++ [58, 47]
  parseName := .ok
  server := [103]
  type i := if i % 2 = 0 then dirType else kcmType
  resolve name primary := primary (ccType name)
  switches _ := true
  cacheMatch s client := (s.principals.find? fun m => m.2 = client).map Prod.fst
  newUnique s type := 2 * s.members.foldr (max ·.1 ·) 0 + if type = dirType then 2 else 1
  match_some h := by
    obtain ⟨m, hm, rfl⟩ := Option.map_eq_some_iff.mp h
    have hclient := List.find?_some hm
    simp only [decide_eq_true_eq] at hclient
    exact hclient ▸ List.mem_of_find?_eq_some hm
  match_none h i hi := by
    have hne := List.find?_eq_none.mp (Option.map_eq_none_iff.mp h) _ hi
    simp at hne
  match_again h hp _ := by rw [hp, h]
  new_unique s type := by
    have hle : ∀ m ∈ s.members, m.1 ≤ s.members.foldr (max ·.1 ·) 0 := by
      induction s.members with
      | nil => nofun
      | cons m members ih => grind
    refine List.lookup_eq_none_iff.mpr fun m hm => ?_
    have hm := hle m hm
    rw [bne_iff_ne]
    split <;> omega

/-- One member of each of two types, of the principal `b`. -/
def someCaches : Caches Bytes Nat where
  files _ := none
  members := [(0, ⟨[98], []⟩), (1, ⟨[98], [⟨[98], [103], [7]⟩]⟩)]
  primary type := if type = dirType then 0 else 1

theorem stored_update_read : ∃ s,
    storeAll walkKrb5 .rust [("ccache", kcmType ++ [58])] [97] someCaches [([1], false), ([2], true)] =
        .ok s ∧
      retrieveRemoteCred walkKrb5 .rust (ccName walkKrb5 [("ccache", kcmType ++ [58])]) [97] s =
        .ok [2] := by
  obtain ⟨s, hs⟩ : ∃ s, storeAll walkKrb5 .rust [("ccache", kcmType ++ [58])] [97] someCaches
    [([1], false), ([2], true)] = .ok s := ⟨_, rfl⟩
  exact ⟨s, hs, (stored_iff (show clientOf walkKrb5 .rust [97] = .ok [97] from rfl) hs).mpr rfl⟩

/-- **An updated credential is not read back**: the first ticket is found. -/
theorem updated_ticket_not_read : ∃ s,
    storeAll walkKrb5 .c [] [97] someCaches [([1], true), ([2], true)] = .ok s ∧
      retrieveRemoteCred walkKrb5 .c (ccName walkKrb5 []) [97] s = .ok [1] :=
  ⟨_, rfl, rfl⟩

end GssProxy.Interposer.StoredCreds
