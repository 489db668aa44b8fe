import Mathlib.Data.Fin.Tuple.Basic
import ChatSC.Native.Server

/-!
# The table of online users as a relation

`Holds online username fd` says that some active slot carries the name and the descriptor.  While no
two active slots carry the same name (`DistinctNames`), registering adds one pair, unregistering
removes the pairs of one name, and a lookup returns the descriptor of the one pair of the name.
Everything that is proved about the server's table goes through these facts.
-/

namespace ChatSC.Spec

open Native

/-- An active slot carries the name and the descriptor. -/
def Holds (online : OnlineUsers) (username : List UInt8) (clientFd : Nat) : Prop :=
  ∃ i : Fin chatMaxOnlineUsers, (online.slot i).active = true ∧
    (online.slot i).username.val = username ∧ (online.slot i).clientFd = clientFd

/-- No two active slots carry the same name. -/
def DistinctNames (online : OnlineUsers) : Prop :=
  ∀ i j : Fin chatMaxOnlineUsers, (online.slot i).active = true → (online.slot j).active = true →
    (online.slot i).username.val = (online.slot j).username.val → i = j

theorem names_iff {user : OnlineUser} {username : List UInt8} :
    user.names username = true ↔ user.active = true ∧ user.username.val = username := by
  simp [OnlineUser.names]

/-! ## Looking up -/

/-- The index that is found names the user. -/
theorem findOnlineUserIndex_some {online : OnlineUsers} {username : List UInt8}
    {i : Fin chatMaxOnlineUsers} (h : findOnlineUserIndex online username = some i) :
    (online.slot i).active = true ∧ (online.slot i).username.val = username :=
  names_iff.mp (Fin.find?_eq_some_iff.mp h).1

/-- No index is found exactly when no active slot carries the name. -/
theorem findOnlineUserIndex_eq_none_iff {online : OnlineUsers} {username : List UInt8} :
    findOnlineUserIndex online username = none ↔ ∀ clientFd, ¬ Holds online username clientFd := by
  unfold findOnlineUserIndex
  rw [Fin.find?_eq_none_iff]
  -- the source stops at the first slot that is active and carries the name
  constructor
  · rintro h clientFd ⟨i, hactive, hname, -⟩
    have hi := h i
    rw [names_iff.mpr ⟨hactive, hname⟩] at hi
    exact absurd hi (by decide)
  · intro h i
    apply Bool.eq_false_iff.mpr
    intro hi
    obtain ⟨hactive, hname⟩ := names_iff.mp hi
    exact h _ ⟨i, hactive, hname, rfl⟩

/-- A descriptor that is returned belongs to the name. -/
theorem holds_of_getOnlineUserFd {online : OnlineUsers} {username : List UInt8} {clientFd : Nat}
    (h : getOnlineUserFd online username = some clientFd) : Holds online username clientFd := by
  obtain ⟨i, hi, hfd⟩ := Option.map_eq_some_iff.mp h
  obtain ⟨hactive, hname⟩ := findOnlineUserIndex_some hi
  exact ⟨i, hactive, hname, hfd⟩

/-- While names are distinct, a name has one descriptor at most. -/
theorem DistinctNames.holds_unique {online : OnlineUsers} (h : DistinctNames online)
    {username : List UInt8} {fd fd' : Nat} (hfd : Holds online username fd)
    (hfd' : Holds online username fd') : fd = fd' := by
  obtain ⟨i, hi, hiname, hifd⟩ := hfd
  obtain ⟨j, hj, hjname, hjfd⟩ := hfd'
  obtain rfl := h i j hi hj (hiname.trans hjname.symm)
  exact hifd.symm.trans hjfd

/-! ## Registering -/

/-- `register_online_user` refuses: the name is online or the table is full. -/
def Refuses (online : OnlineUsers) (username : List UInt8) : Prop :=
  findOnlineUserIndex online username ≠ none ∨
    ∀ i : Fin chatMaxOnlineUsers, (online.slot i).active = true

instance (online : OnlineUsers) (username : List UInt8) : Decidable (Refuses online username) :=
  inferInstanceAs (Decidable (_ ∨ _))

/-- A new name is not refused while a slot is free. -/
theorem not_refuses {online : OnlineUsers} {username : List UInt8} {i : Fin chatMaxOnlineUsers}
    (hnew : ∀ fd, ¬ Holds online username fd) (hfree : (online.slot i).active = false) :
    ¬ Refuses online username := by
  rintro (hfind | hfull)
  · exact hfind (findOnlineUserIndex_eq_none_iff.mpr hnew)
  · exact absurd (hfree.symm.trans (hfull i)) (by decide)

/-- All that a registration can do: refuse, or fill a free slot with a new name. -/
theorem registerOnlineUser_cases (online : OnlineUsers) (username : List UInt8) (clientFd : Nat) :
    (Refuses online username ∧ registerOnlineUser online username clientFd = (false, online)) ∨
    ((∀ fd, ¬ Holds online username fd) ∧
      ∃ i : Fin chatMaxOnlineUsers, (online.slot i).active = false ∧
        registerOnlineUser online username clientFd =
          (true, online.set i ⟨true, clientFd, .ofStr _ username⟩ i.isLt)) := by
  unfold registerOnlineUser
  -- the name is looked up before a free slot is
  cases hfind : findOnlineUserIndex online username with
  | some i => exact .inl ⟨.inl (by simp [hfind]), rfl⟩
  | none =>
    cases hfree : findFreeIndex online with
    | some i =>
      have hi := (Fin.find?_eq_some_iff.mp hfree).1
      exact .inr ⟨findOnlineUserIndex_eq_none_iff.mp hfind, i, by simpa using hi, rfl⟩
    -- all slots are taken
    | none =>
      have hfull := Fin.find?_eq_none_iff.mp hfree
      exact .inl ⟨.inr fun i => by simpa using hfull i, rfl⟩

/-- The name that a registration stores is the name it is given, when that fits. -/
theorem ofStr_username_val {username : List UInt8} (h0 : 0 ∉ username)
    (hlen : username.length ≤ 31) :
    (CString.ofStr chatMaxUsername username).val = username :=
  CString.val_ofStr h0 (Nat.lt_succ_of_le hlen)

/-- Filling a free slot adds one pair. -/
theorem holds_set_free {online : OnlineUsers} {i : Fin chatMaxOnlineUsers}
    (hfree : (online.slot i).active = false) {username : List UInt8} (h0 : 0 ∉ username)
    (hlen : username.length ≤ 31) (clientFd : Nat) (name : List UInt8) (fd : Nat) :
    Holds (online.set i ⟨true, clientFd, .ofStr _ username⟩ i.isLt) name fd ↔
      Holds online name fd ∨ (name = username ∧ fd = clientFd) := by
  have hval := ofStr_username_val h0 hlen
  constructor
  · rintro ⟨j, hj⟩
    -- the slot that was filled, or another one
    by_cases hij : i = j
    · subst hij
      simp only [Fin.getElem_fin, Vector.getElem_set_self, hval] at hj
      exact .inr ⟨hj.2.1.symm, hj.2.2.symm⟩
    · have hne : (i : Nat) ≠ j := fun h => hij (Fin.ext h)
      simp only [Fin.getElem_fin, Vector.getElem_set_ne _ _ hne] at hj
      exact .inl ⟨j, hj⟩
  · rintro (⟨j, hj⟩ | ⟨rfl, rfl⟩)
    · -- the slot was free, so it held nothing
      have hne : (i : Nat) ≠ j := by
        intro h
        obtain rfl := Fin.ext h
        exact absurd (hfree.symm.trans hj.1) (by decide)
      refine ⟨j, ?_⟩
      simp only [Fin.getElem_fin, Vector.getElem_set_ne _ _ hne]
      exact hj
    · refine ⟨i, ?_⟩
      simp only [Fin.getElem_fin, Vector.getElem_set_self, hval]
      exact ⟨trivial, trivial, trivial⟩

/-- Filling a free slot with a name that is not online keeps the names distinct. -/
theorem DistinctNames.set_free {online : OnlineUsers} (h : DistinctNames online)
    {i : Fin chatMaxOnlineUsers} {username : List UInt8} (h0 : 0 ∉ username)
    (hlen : username.length ≤ 31) (hnew : ∀ fd, ¬ Holds online username fd) (clientFd : Nat) :
    DistinctNames (online.set i ⟨true, clientFd, .ofStr _ username⟩ i.isLt) := by
  have hval := ofStr_username_val h0 hlen
  have hother : ∀ j : Fin chatMaxOnlineUsers, (online.slot j).active = true →
      (online.slot j).username.val ≠ username := fun j hj hname => hnew _ ⟨j, hj, hname, rfl⟩
  intro j k hj hk hjk
  simp only [Fin.getElem_fin, Vector.getElem_set] at hj hk hjk
  -- two slots of one name would be the filled one and one that carries the new name
  by_cases hij : (i : Nat) = j <;> by_cases hik : (i : Nat) = k
  · exact Fin.ext (hij.symm.trans hik)
  · rw [if_pos hij, if_neg hik, hval] at hjk
    rw [if_neg hik] at hk
    exact absurd hjk.symm (hother k hk)
  · rw [if_neg hij, if_pos hik, hval] at hjk
    rw [if_neg hij] at hj
    exact absurd hjk (hother j hj)
  · rw [if_neg hij] at hj
    rw [if_neg hik] at hk
    rw [if_neg hij, if_neg hik] at hjk
    exact h j k hj hk hjk

/-! ## Unregistering -/

/-- All that unregistering can do: nothing for the empty name and for a name that is not online, or
    clear a slot that carries the name. -/
theorem unregisterOnlineUser_cases (online : OnlineUsers) (username : List UInt8) :
    (username = [] ∧ unregisterOnlineUser online username = online) ∨
    ((∀ fd, ¬ Holds online username fd) ∧ unregisterOnlineUser online username = online) ∨
    (username ≠ [] ∧ ∃ i : Fin chatMaxOnlineUsers, (online.slot i).active = true ∧
        (online.slot i).username.val = username ∧
        unregisterOnlineUser online username = online.set i .zero i.isLt) := by
  unfold unregisterOnlineUser
  -- a session that never logged in has the empty name
  by_cases hnil : username = []
  · exact .inl ⟨hnil, if_pos hnil⟩
  · rw [if_neg hnil]
    cases hfind : findOnlineUserIndex online username with
    | none => exact .inr (.inl ⟨findOnlineUserIndex_eq_none_iff.mp hfind, rfl⟩)
    | some i =>
      obtain ⟨hactive, hname⟩ := findOnlineUserIndex_some hfind
      exact .inr (.inr ⟨hnil, i, hactive, hname, rfl⟩)

/-- Clearing a slot removes the pairs of its name. -/
theorem DistinctNames.holds_set_zero {online : OnlineUsers} (h : DistinctNames online)
    {i : Fin chatMaxOnlineUsers} (hactive : (online.slot i).active = true) (name : List UInt8)
    (fd : Nat) :
    Holds (online.set i .zero i.isLt) name fd ↔
      Holds online name fd ∧ name ≠ (online.slot i).username.val := by
  constructor
  · rintro ⟨j, hj⟩
    -- the slot that was cleared carries nothing now
    by_cases hij : (i : Nat) = j
    · simp [hij, OnlineUser.zero] at hj
    · simp only [Fin.getElem_fin, Vector.getElem_set_ne _ _ hij] at hj
      refine ⟨⟨j, hj⟩, fun hname => hij ?_⟩
      -- no other slot carries its name
      exact congrArg Fin.val (h i j hactive hj.1 (hname.symm.trans hj.2.1.symm))
  · rintro ⟨⟨j, hj, hjname, hjfd⟩, hne⟩
    have hij : (i : Nat) ≠ j := by
      intro hij
      obtain rfl := Fin.ext hij
      exact hne hjname.symm
    refine ⟨j, ?_⟩
    simp only [Fin.getElem_fin, Vector.getElem_set_ne _ _ hij]
    exact ⟨hj, hjname, hjfd⟩

/-- Clearing a slot keeps the names distinct. -/
theorem DistinctNames.set_zero {online : OnlineUsers} (h : DistinctNames online)
    (i : Fin chatMaxOnlineUsers) : DistinctNames (online.set i .zero i.isLt) := by
  intro j k hj hk hjk
  simp only [Fin.getElem_fin, Vector.getElem_set] at hj hk hjk
  by_cases hij : (i : Nat) = j
  · simp [hij, OnlineUser.zero] at hj
  · by_cases hik : (i : Nat) = k
    · simp [hik, OnlineUser.zero] at hk
    · simp only [hij, hik, ↓reduceIte] at hj hk hjk
      exact h j k hj hk hjk

/-- Unregistering keeps the names distinct. -/
theorem DistinctNames.unregister {online : OnlineUsers} (h : DistinctNames online)
    (username : List UInt8) : DistinctNames (unregisterOnlineUser online username) := by
  rcases unregisterOnlineUser_cases online username with
    ⟨-, heq⟩ | ⟨-, heq⟩ | ⟨-, i, -, -, heq⟩
  · rwa [heq]
  · rwa [heq]
  · rw [heq]
    exact h.set_zero i

/-- Unregistering a name removes its pairs. -/
theorem DistinctNames.holds_unregister {online : OnlineUsers} (h : DistinctNames online)
    {username : List UInt8} (hne : username ≠ []) (name : List UInt8) (fd : Nat) :
    Holds (unregisterOnlineUser online username) name fd ↔
      Holds online name fd ∧ name ≠ username := by
  rcases unregisterOnlineUser_cases online username with
    ⟨hnil, -⟩ | ⟨hnone, heq⟩ | ⟨-, i, hactive, hname, heq⟩
  · exact absurd hnil hne
  · rw [heq]
    exact ⟨fun hfd => ⟨hfd, fun heq => hnone fd (heq ▸ hfd)⟩, And.left⟩
  · rw [heq, h.holds_set_zero hactive, hname]

/-- The empty table holds nobody. -/
theorem not_holds_zero (name : List UInt8) (fd : Nat) : ¬ Holds .zero name fd := by
  rintro ⟨i, hi, -⟩
  simp [OnlineUsers.zero, OnlineUser.zero] at hi

theorem distinctNames_zero : DistinctNames .zero := by
  intro i j hi
  simp [OnlineUsers.zero, OnlineUser.zero] at hi

/-! ## Claims on names

Each connection that is logged in has a claim on a name, with its descriptor.  The two facts below
are what a login and the end of a connection do to the table and to the claims. -/

section Claims

variable {online : OnlineUsers} {claims claims' : Nat → List UInt8 → Nat → Prop}

/-- Every claim is in the table. -/
structure Claimed (online : OnlineUsers) (claims : Nat → List UInt8 → Nat → Prop) : Prop where
  distinct : DistinctNames online
  ne_nil : ∀ i name fd, claims i name fd → name ≠ []
  holds : ∀ i name fd, claims i name fd → Holds online name fd

/-- Everything in the table is claimed. -/
def Backed (online : OnlineUsers) (claims : Nat → List UInt8 → Nat → Prop) : Prop :=
  ∀ name fd, Holds online name fd → ∃ i, claims i name fd

theorem Claimed.mono (h : Claimed online claims)
    (hclaims : ∀ i name fd, claims' i name fd → claims i name fd) : Claimed online claims' where
  distinct := h.distinct
  ne_nil := fun i name fd hi => h.ne_nil i name fd (hclaims i name fd hi)
  holds := fun i name fd hi => h.holds i name fd (hclaims i name fd hi)

theorem Backed.mono (h : Backed online claims)
    (hclaims : ∀ i name fd, claims i name fd → claims' i name fd) : Backed online claims' := by
  intro name fd hfd
  obtain ⟨i, hi⟩ := h name fd hfd
  exact ⟨i, hclaims i name fd hi⟩

/-- A claim on a name that was just registered is in the table, as the old ones are. -/
theorem Claimed.register (h : Claimed online claims) {slot : Fin chatMaxOnlineUsers}
    (hfree : (online.slot slot).active = false) {username : List UInt8} (h0 : 0 ∉ username)
    (hne : username ≠ []) (hlen : username.length ≤ 31) (hnew : ∀ fd, ¬ Holds online username fd)
    {clientFd : Nat}
    (hclaims : ∀ i name fd, claims' i name fd →
      claims i name fd ∨ (name = username ∧ fd = clientFd)) :
    Claimed (online.set slot ⟨true, clientFd, .ofStr _ username⟩ slot.isLt) claims' where
  distinct := h.distinct.set_free h0 hlen hnew clientFd
  ne_nil := by
    intro i name fd hi
    -- a claim on the new name is held by the new slot, and the others by theirs
    rcases hclaims i name fd hi with hold | ⟨rfl, -⟩
    · exact h.ne_nil i name fd hold
    · exact hne
  holds := by
    intro i name fd hi
    rw [holds_set_free hfree h0 hlen]
    rcases hclaims i name fd hi with hold | hnew'
    · exact .inl (h.holds i name fd hold)
    · exact .inr hnew'

/-- When a connection that has one claim at most leaves and unregisters the name it has, the claims
    of the others stay in the table. -/
theorem Claimed.unregister (h : Claimed online claims) (index : Nat) {username : List UInt8}
    (hown : username = [] ∨ ∃ fd, claims index username fd)
    (hfds : ∀ i j name name' fd, claims i name fd → claims j name' fd → i = j)
    (hclaims : ∀ i name fd, claims' i name fd → claims i name fd ∧ i ≠ index) :
    Claimed (unregisterOnlineUser online username) claims' where
  distinct := h.distinct.unregister username
  ne_nil := fun i name fd hi => h.ne_nil i name fd (hclaims i name fd hi).1
  holds := by
    intro i name fd hi
    obtain ⟨hold, hindex⟩ := hclaims i name fd hi
    rcases hown with rfl | ⟨fd', hfd'⟩
    · exact h.holds i name fd hold
    · rw [h.distinct.holds_unregister (h.ne_nil _ _ _ hfd')]
      refine ⟨h.holds i name fd hold, ?_⟩
      rintro rfl
      -- the same name has one descriptor, and a descriptor one connection
      have hsame := h.distinct.holds_unique (h.holds i name fd hold) (h.holds _ _ _ hfd')
      exact hindex (hfds i index name name fd hold (hsame ▸ hfd'))

/-- A registered name is claimed by the connection that registered it. -/
theorem Backed.register (h : Backed online claims) {slot : Fin chatMaxOnlineUsers}
    (hfree : (online.slot slot).active = false) {username : List UInt8} (h0 : 0 ∉ username)
    (hlen : username.length ≤ 31) (index : Nat) {clientFd : Nat}
    (hclaims : ∀ i name fd, claims i name fd → claims' i name fd)
    (hclaim : claims' index username clientFd) :
    Backed (online.set slot ⟨true, clientFd, .ofStr _ username⟩ slot.isLt) claims' := by
  intro name fd hfd
  rw [holds_set_free hfree h0 hlen] at hfd
  rcases hfd with hold | ⟨rfl, rfl⟩
  · obtain ⟨i, hi⟩ := h name fd hold
    exact ⟨i, hclaims i name fd hi⟩
  · exact ⟨index, hclaim⟩

/-- When a connection leaves and unregisters the one name it has, what stays in the table is claimed
    by the others. -/
theorem Backed.unregister (h : Backed online claims) (hclaimed : Claimed online claims)
    (index : Nat) {username : List UInt8}
    (hown : ∀ name fd, claims index name fd → name = username)
    (hclaims : ∀ i name fd, claims i name fd → i ≠ index → claims' i name fd) :
    Backed (unregisterOnlineUser online username) claims' := by
  intro name fd hfd
  -- what is left is what the others hold
  have hold : Holds online name fd ∧ (username ≠ [] → name ≠ username) := by
    by_cases hnil : username = []
    · subst hnil
      exact ⟨hfd, fun h => absurd rfl h⟩
    · rw [hclaimed.distinct.holds_unregister hnil] at hfd
      exact ⟨hfd.1, fun _ => hfd.2⟩
  obtain ⟨i, hi⟩ := h name fd hold.1
  refine ⟨i, hclaims i name fd hi fun hindex => ?_⟩
  -- the connection that leaves claims only the name it takes away
  have hname := hown name fd (hindex ▸ hi)
  exact hold.2 (hname ▸ hclaimed.ne_nil i name fd hi) hname

end Claims

end ChatSC.Spec
