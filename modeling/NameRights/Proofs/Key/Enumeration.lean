/- NameRights/Proofs/Key/Enumeration
   digest: What the keys of a directory owe to one entry, and to the order the entries come in. -/

import NameRights.Proofs.Key.Reading
import NameRights.Proofs.Key.Selection

set_option autoImplicit false
set_option relaxedAutoImplicit false

namespace NameRights

/-- What stands at a path is a key file that states an address, in any number of bytes. -/
def Entry.States (entry : Entry) (bytes : Bytes) : Prop :=
  ∃ file, entry.Reads file ∧ file.address = some bytes

/-- The text of a key file for an address, which asks for too little memory to be opened. -/
def KeyFile.sealed (address : String) : String :=
  "\x7b\"id\":\"\",\"version\":3,\"address\":\"" ++ address ++ "\",\"crypto\":\x7b" ++
    "\"cipher\":\"aes-128-ctr\",\"cipherparams\":\x7b\"iv\":\"\"\x7d,\"ciphertext\":\"\"," ++
    "\"kdf\":\"scrypt\",\"kdfparams\":\x7b\"dklen\":32,\"n\":1,\"r\":1,\"p\":1,\"salt\":\"\"\x7d," ++
    "\"mac\":\"\"\x7d\x7d"

private theorem KeyFile.parse?_utf8 (s : String) :
    parse? (Text.utf8 s) = (Json.parse? s).bind KeyFile.ofJson? := by
  have text : Text.ofUtf8? (Text.utf8 s) = some s := Text.ofUtf8?_eq_some_iff.2 rfl
  simp only [parse?, text, Option.bind_eq_bind, Option.bind_some]

private theorem KeyRing.IsAscending.find?_of_choose {ring : KeyRing} (ascending : ring.IsAscending)
    {address : Option Address} {input : Bytes} {path : String}
    (chosen : (ring.choose address input).2 = .ok path) : ∃ a, ring.find? a = some path := by
  cases address with
  | some a =>
    refine ⟨a, ?_⟩
    rw [choose] at chosen
    split at chosen
    · rename_i found
      cases chosen
      exact found
    · cases chosen
  | none =>
    have course := ascending.course_selectFrom (splitLines input)
    have picked : (ring.selectFrom (splitLines input)).2 = .ok path := by
      simp only [choose, select] at chosen
      generalize (ring.selectFrom (splitLines input)).2 = result at chosen
      cases result with
      | error fault => cases chosen
      | ok chosenPath => exact congrArg Except.ok (Except.ok.inj chosen)
    rw [picked] at course
    generalize (ring.selectFrom (splitLines input)).1 = shown at course
    cases course with
    | settled _ _ settles =>
      cases settles with
      | picked _ _ _ _ stored => exact ⟨_, stored⟩

namespace KeyDirectory

def holding (path : String) (entries : List (String × Entry)) : KeyDirectory := ⟨path, some entries⟩

private def Lists (a : Address) (entries : List (String × Entry)) (name : String) : Prop :=
  ∃ entry, LastClaim a entries name entry

private theorem claimedAddress_eq_some {entry : Entry} {bytes : Bytes} :
    claimedAddress entry = some bytes ↔ entry.States bytes := by
  unfold claimedAddress Entry.States
  split
  · rename_i content
    simp only [Option.bind_eq_some_iff, KeyFile.parse?_eq_some]
  · rename_i other
    simp only [reduceCtorEq, false_iff]
    rintro ⟨file, ⟨s, j, text, -⟩, -⟩
    exact other _ text

variable {path : String} {entries others : List (String × Entry)} {a : Address}

private theorem exists_lists_iff :
    (∃ name, Lists a entries name) ↔ ∃ e ∈ entries, e.2.Claims a := by
  induction entries with
  | nil => simp [Lists, LastClaim]
  | cons e entries ih =>
    obtain ⟨name, entry⟩ := e
    simp only [Lists, lastClaim_cons, exists_or] at ih ⊢
    rw [ih]
    simp only [List.mem_cons, exists_eq_or_imp]
    constructor
    · rintro (later | ⟨_, _, same, claims, -⟩)
      · exact Or.inr later
      · cases same
        exact Or.inl claims
    · rintro (claims | later)
      · by_cases again : ∃ e ∈ entries, e.2.Claims a
        · exact Or.inl again
        · simp only [not_exists, not_and] at again
          exact Or.inr ⟨name, entry, rfl, claims, again⟩
      · exact Or.inl later

section Listing

variable {ring keys : KeyRing}

private theorem list_of_sized (path : String) (sized : SizedClaims entries) :
    ∃ ring, (holding path entries).list = .ok ring :=
  exists_list_iff.2 ⟨entries, rfl, sized⟩

private theorem reason_of_collect {dir : KeyDirectory} {reason : Abort}
    (stopped : dir.collect entries ring = .error reason) : reason = .keyFileAddressLength := by
  induction entries generalizing ring with
  | nil => cases stopped
  | cons e entries ih =>
    obtain ⟨name, entry⟩ := e
    rw [collect] at stopped
    split at stopped
    · exact ih stopped
    · split at stopped
      · cases stopped
        rfl
      · exact ih stopped

private theorem list_of_unsized (path : String) (unsized : ¬ SizedClaims entries) :
    (holding path entries).list = .aborted .keyFileAddressLength := by
  simp only [list, holding]
  split
  · rename_i gathered collected
    exact absurd ((exists_collect_iff _ entries []).1 ⟨gathered, collected⟩) unsized
  · rename_i reason stopped
    rw [reason_of_collect stopped]

private theorem list_aborted_iff :
    (holding path entries).list = .aborted .keyFileAddressLength ↔ ¬ SizedClaims entries := by
  constructor
  · intro stopped sized
    obtain ⟨ring, listed⟩ := list_of_sized path sized
    cases stopped.symm.trans listed
  · exact list_of_unsized path

private theorem find?_holding (listed : (holding path entries).list = .ok ring) {p : String} :
    ring.find? a = some p ↔ ∃ name, Lists a entries name ∧ p = joinPath path name := by
  rw [find?_list listed]
  constructor
  · rintro ⟨_, name, entry, present, claim, rfl⟩
    cases present
    exact ⟨name, ⟨entry, claim⟩, rfl⟩
  · rintro ⟨name, ⟨entry, claim⟩, rfl⟩
    exact ⟨entries, name, entry, rfl, claim, rfl⟩

private theorem find?_eq_iff (listed : (holding path entries).list = .ok ring)
    (listed' : (holding path others).list = .ok keys) :
    ring.find? a = keys.find? a ↔ ∀ name, Lists a entries name ↔ Lists a others name := by
  have named {entries : List (String × Entry)} {ring : KeyRing}
      (listed : (holding path entries).list = .ok ring) (name : String) :
      ring.find? a = some (joinPath path name) ↔ Lists a entries name := by
    rw [find?_holding listed]
    constructor
    · rintro ⟨other, lists, same⟩
      cases joinPath_injective same
      exact lists
    · intro lists
      exact ⟨name, lists, rfl⟩
  constructor
  · intro same name
    rw [← named listed, ← named listed', same]
  · intro same
    apply Option.ext
    intro p
    simp only [find?_holding listed, find?_holding listed', same]

private theorem list_eq_iff :
    (holding path entries).list = (holding path others).list ↔
      (SizedClaims entries ↔ SizedClaims others) ∧
      (SizedClaims entries → ∀ a name, Lists a entries name ↔ Lists a others name) := by
  by_cases sized : SizedClaims entries <;> by_cases sized' : SizedClaims others
  · obtain ⟨ring, listed⟩ := list_of_sized path sized
    obtain ⟨keys, listed'⟩ := list_of_sized path sized'
    simp only [listed, listed', Outcome.ok.injEq, sized, sized', true_and, forall_const,
      ← find?_eq_iff listed listed']
    constructor
    · rintro rfl a
      rfl
    · exact (isAscending_list listed).eq_of_find? (isAscending_list listed')
  · obtain ⟨ring, listed⟩ := list_of_sized path sized
    simp [listed, list_of_unsized path sized', sized, sized']
  · obtain ⟨keys, listed'⟩ := list_of_sized path sized'
    simp [listed', list_of_unsized path sized, sized, sized']
  · simp [list_of_unsized path sized, list_of_unsized path sized', sized, sized']

private theorem mem_addresses_iff (listed : (holding path entries).list = .ok ring) :
    a ∈ ring.addresses ↔ ∃ e ∈ entries, e.2.Claims a := by
  rw [(isAscending_list listed).mem_addresses, ← exists_lists_iff]
  simp only [find?_holding listed]
  constructor
  · rintro ⟨_, name, lists, -⟩
    exact ⟨name, lists⟩
  · rintro ⟨name, lists⟩
    exact ⟨_, name, lists, rfl⟩

end Listing

section Unlocking

variable {address : Option Address} {password : Option PasswordFile} {input : Bytes}
  {terminal : Terminal}

private theorem unlock_eq {dir other : KeyDirectory} {ring keys : KeyRing}
    (listed : dir.list = .ok ring) (listed' : other.list = .ok keys) (place : dir.path = other.path)
    (shared : ring.addresses = keys.addresses)
    (chosen : ring.choose address input = keys.choose address input)
    (stands : ∀ p, (ring.choose address input).2 = .ok p → dir.entryAt p = other.entryAt p) :
    dir.unlock address password input terminal = other.unlock address password input terminal := by
  cases ring with
  | nil =>
    cases keys with
    | nil => simp only [unlock, listed, listed', place]
    | cons next keys => cases shared
  | cons first ring =>
    cases keys with
    | nil => cases shared
    | cons next keys =>
      simp only [unlock, listed, listed', ← chosen]
      generalize KeyRing.choose (first :: ring) address input = choice at stands
      obtain ⟨shown, result⟩ := choice
      cases result with
      | error e => rfl
      | ok p => simp only [Outcome.ofExcept, bind, Outcome.bind, stands p rfl]

private theorem entryAt_eq {ring : KeyRing} (distinct : (entries.map Prod.fst).Nodup)
    (distinct' : (others.map Prod.fst).Nodup) (among : ∀ e ∈ entries, e ∈ others)
    (listed : (holding path entries).list = .ok ring) {p : String}
    (chosen : (ring.choose address input).2 = .ok p) :
    (holding path entries).entryAt p = (holding path others).entryAt p := by
  obtain ⟨a, found⟩ := (isAscending_list listed).find?_of_choose chosen
  obtain ⟨name, ⟨entry, claim⟩, rfl⟩ := (find?_holding listed).1 found
  have here : (holding path entries).entryAt (joinPath path name) = entry :=
    entryAt_pathOf rfl distinct claim.mem
  have there : (holding path others).entryAt (joinPath path name) = entry :=
    entryAt_pathOf rfl distinct' (among _ claim.mem)
  exact here.trans there.symm

private theorem unlock_eq_of_list (distinct : (entries.map Prod.fst).Nodup)
    (distinct' : (others.map Prod.fst).Nodup) (among : ∀ e ∈ entries, e ∈ others)
    (same : (holding path entries).list = (holding path others).list) :
    (holding path entries).unlock address password input terminal =
      (holding path others).unlock address password input terminal := by
  cases listed : (holding path entries).list with
  | ok ring =>
    exact unlock_eq listed (same.symm.trans listed) rfl rfl rfl
      fun p => entryAt_eq distinct distinct' among listed
  | error e => simp only [unlock, ← same, listed]
  | aborted reason => simp only [unlock, ← same, listed]

end Unlocking

section Stranger

variable {before after : List (String × Entry)} {name : String} {entry : Entry}

private theorem lastClaim_beside (silent : ¬ entry.Claims a) {n : String} {claimant : Entry} :
    LastClaim a (before ++ (name, entry) :: after) n claimant ↔
      LastClaim a (before ++ after) n claimant := by
  induction before with
  | nil =>
    rw [List.nil_append, List.nil_append, lastClaim_cons, or_iff_left]
    rintro ⟨same, claims, -⟩
    cases same
    exact silent claims
  | cons e before ih =>
    have none : (∀ x ∈ before ++ (name, entry) :: after, ¬ x.2.Claims a) ↔
        ∀ x ∈ before ++ after, ¬ x.2.Claims a := by
      simp only [List.mem_append, List.mem_cons, or_imp, forall_and, forall_eq, silent,
        not_false_eq_true, true_and]
    rw [List.cons_append, List.cons_append, lastClaim_cons, lastClaim_cons, ih, none]

private theorem sizedClaims_beside (stranger : ∀ bytes, entry.States bytes → bytes.length ≠ 20) :
    SizedClaims (before ++ (name, entry) :: after) ↔
      SizedClaims (before ++ after) ∧ ∀ bytes, ¬ entry.States bytes := by
  have unsized : (∀ bytes, entry.States bytes → bytes.length = 20) ↔
      ∀ bytes, ¬ entry.States bytes := by
    constructor
    · intro sized bytes states
      exact stranger bytes states (sized bytes states)
    · intro silent bytes states
      exact absurd states (silent bytes)
  simp only [SizedClaims, claimedAddress_eq_some, List.mem_append, List.mem_cons, or_imp,
    forall_and, forall_eq, unsized]
  exact and_left_comm.trans and_comm

/-- An entry that is no key file for an address of 20 bytes leaves the keys of a directory as they
are if it states no address at all. A key file that states one of another length ends every listing,
whatever else there is, and no key can be unlocked then. -/
theorem list_beside
    (distinct : ((before ++ (name, entry) :: after).map Prod.fst).Nodup)
    (stranger : ∀ bytes, entry.States bytes → bytes.length ≠ 20) :
    let alone := holding path (before ++ after)
    let beside := holding path (before ++ (name, entry) :: after)
    (beside.list = alone.list ↔
      (∀ bytes, ¬ entry.States bytes) ∨ alone.list = .aborted .keyFileAddressLength) ∧
    ((∀ bytes, ¬ entry.States bytes) → ∀ address password input terminal,
      beside.unlock address password input terminal = alone.unlock address password input terminal) ∧
    ((∃ bytes, entry.States bytes) → beside.list = .aborted .keyFileAddressLength ∧
      ∀ address password input terminal,
        beside.unlock address password input terminal = ("", .aborted .keyFileAddressLength)) := by
  intro alone beside
  have silent (a : Address) : ¬ entry.Claims a := by
    rintro ⟨bytes, claimed, sized⟩
    exact stranger bytes (claimedAddress_eq_some.1 claimed) (Address.ofBytes?_eq_some.1 sized).1
  have lists (a : Address) (n : String) :
      Lists a (before ++ (name, entry) :: after) n ↔ Lists a (before ++ after) n :=
    exists_congr fun claimant => lastClaim_beside (silent a)
  have alike : beside.list = alone.list ↔
      (∀ bytes, ¬ entry.States bytes) ∨ alone.list = .aborted .keyFileAddressLength := by
    rw [list_eq_iff, list_aborted_iff, sizedClaims_beside stranger]
    simp only [lists, implies_true, and_true, and_iff_left_iff_imp]
    exact imp_iff_or_not
  have among : (before ++ after).Sublist (before ++ (name, entry) :: after) :=
    (List.sublist_cons_self _ _).append_left before
  refine ⟨alike, ?_, ?_⟩
  · intro stateless address password input terminal
    have same := (alike.2 (Or.inl stateless)).symm
    exact (unlock_eq_of_list (distinct.sublist (among.map Prod.fst)) distinct
      (fun e => among.mem) same).symm
  · rintro ⟨bytes, states⟩
    have unsized : ¬ SizedClaims (before ++ (name, entry) :: after) := by
      rw [sizedClaims_beside stranger]
      exact fun sized => sized.2 bytes states
    have stopped := list_of_unsized path unsized
    refine ⟨stopped, ?_⟩
    intro address password input terminal
    simp only [unlock, beside, stopped]

/-- A key file for an address of one byte ends the listing of its directory. -/
theorem list_beside_oneByte :
    let entry := Entry.file (Text.utf8 (KeyFile.sealed "00"))
    let entries := [("old", .directory), ("short.json", entry)]
    (entries.map Prod.fst).Nodup ∧ (∀ bytes, entry.States bytes → bytes.length ≠ 20) ∧
      (∃ bytes, entry.States bytes) ∧
      (holding "/keys" entries).list = .aborted .keyFileAddressLength := by
  intro entry entries
  have claimed : claimedAddress entry = some [0] := by
    simp only [entry, claimedAddress, KeyFile.parse?_utf8]
    decide +kernel
  have stated := claimedAddress_eq_some.1 claimed
  have stranger (bytes : Bytes) (states : entry.States bytes) : bytes.length ≠ 20 := by
    cases claimed.symm.trans (claimedAddress_eq_some.2 states)
    decide
  have distinct : (entries.map Prod.fst).Nodup := by decide
  have beside := @list_beside "/keys" [("old", .directory)] [] "short.json" entry distinct stranger
  exact ⟨distinct, stranger, ⟨[0], stated⟩, (beside.2.2 ⟨[0], stated⟩).1⟩

end Stranger

section Order

/-- The same entry claims an address last in two lists, or none does in either. -/
def SameLast (a : Address) (entries order : List (String × Entry)) : Prop :=
  ∀ name entry, LastClaim a entries name entry ↔ LastClaim a order name entry

/-- No two entries claim the address. -/
def Unshared (a : Address) (entries : List (String × Entry)) : Prop :=
  ∀ x ∈ entries, ∀ y ∈ entries, x.2.Claims a → y.2.Claims a → x = y

variable {order : List (String × Entry)}

private theorem Unshared.lastClaim_iff (unshared : Unshared a entries) {name : String}
    {entry : Entry} :
    LastClaim a entries name entry ↔ (name, entry) ∈ entries ∧ entry.Claims a := by
  constructor
  · intro claim
    have ⟨_, _, _, claims, _⟩ := claim
    exact ⟨claim.mem, claims⟩
  · rintro ⟨listed, claims⟩
    obtain ⟨last, ⟨other, claim⟩⟩ := exists_lists_iff.2 ⟨_, listed, claims⟩
    have ⟨_, _, _, claims', _⟩ := claim
    cases unshared _ listed _ claim.mem claims claims'
    exact claim

private theorem Unshared.sameLast (unshared : Unshared a entries) (perm : entries.Perm order) :
    SameLast a entries order := by
  have unshared' : Unshared a order := by
    intro x listed y listed'
    exact unshared x (perm.mem_iff.2 listed) y (perm.mem_iff.2 listed')
  intro name entry
  rw [unshared.lastClaim_iff, unshared'.lastClaim_iff, perm.mem_iff]

private theorem sameLast_iff (perm : entries.Perm order) (distinct : (entries.map Prod.fst).Nodup) :
    SameLast a entries order ↔ ∀ name, Lists a entries name ↔ Lists a order name := by
  have alone {name : String} {x y : Entry} (listed : (name, x) ∈ entries)
      (listed' : (name, y) ∈ entries) : x = y :=
    congrArg Prod.snd (List.inj_on_of_nodup_map distinct listed listed' rfl)
  constructor
  · intro same name
    exact exists_congr fun entry => same name entry
  · intro same name entry
    constructor
    · intro claim
      obtain ⟨other, claim'⟩ := (same name).1 ⟨entry, claim⟩
      exact alone claim.mem (perm.mem_iff.2 claim'.mem) ▸ claim'
    · intro claim
      obtain ⟨other, claim'⟩ := (same name).2 ⟨entry, claim⟩
      exact alone claim'.mem (perm.mem_iff.2 claim.mem) ▸ claim'

/-- The addresses of a listing do not depend on the order of the entries, nor does it whether the
listing is given up. The files that stand for the addresses do: of several that claim one address the
last counts. What is unlocked for an address is the same in both orders if the same file claims it
last, and always if no two files claim it. -/
theorem list_perm (perm : entries.Perm order) (distinct : (entries.map Prod.fst).Nodup) :
    let dir := holding path entries
    let shuffled := holding path order
    KeyRing.addresses <$> dir.list = KeyRing.addresses <$> shuffled.list ∧
    (dir.list = shuffled.list ↔ ¬ SizedClaims entries ∨ ∀ a, SameLast a entries order) ∧
    (dir.list = shuffled.list → ∀ address password input terminal,
      dir.unlock address password input terminal = shuffled.unlock address password input terminal) ∧
    (∀ a, SameLast a entries order → ∀ password input terminal,
      dir.unlock (some a) password input terminal = shuffled.unlock (some a) password input terminal) ∧
    (∀ a, Unshared a entries → SameLast a entries order) := by
  intro dir shuffled
  have distinct' : (order.map Prod.fst).Nodup := (perm.map Prod.fst).nodup_iff.1 distinct
  have among (e : String × Entry) (listed : e ∈ entries) : e ∈ order := perm.mem_iff.1 listed
  have sizes : SizedClaims entries ↔ SizedClaims order :=
    forall_congr' fun e => by rw [perm.mem_iff]
  have alike : dir.list = shuffled.list ↔
      ¬ SizedClaims entries ∨ ∀ a, SameLast a entries order := by
    rw [list_eq_iff, ← sizes, ← imp_iff_not_or]
    simp only [sameLast_iff perm distinct, true_and]
  have shared {ring keys : KeyRing} (listed : dir.list = .ok ring)
      (listed' : shuffled.list = .ok keys) : ring.addresses = keys.addresses := by
    refine (isAscending_list listed).addresses_eq (isAscending_list listed') ?_
    intro a
    rw [mem_addresses_iff listed, mem_addresses_iff listed']
    exact exists_congr fun e => by rw [perm.mem_iff]
  have unlocked (same : dir.list = shuffled.list) (address : Option Address)
      (password : Option PasswordFile) (input : Bytes) (terminal : Terminal) :
      dir.unlock address password input terminal = shuffled.unlock address password input terminal :=
    unlock_eq_of_list distinct distinct' among same
  by_cases sized : SizedClaims entries
  · obtain ⟨ring, listed⟩ := list_of_sized path sized
    obtain ⟨keys, listed'⟩ := list_of_sized path (sizes.1 sized)
    refine ⟨?_, alike, unlocked, ?_, fun a unshared => unshared.sameLast perm⟩
    · rw [listed, listed']
      exact congrArg Outcome.ok (shared listed listed')
    · intro a same password input terminal
      have found := (find?_eq_iff listed listed').2 ((sameLast_iff perm distinct).1 same)
      have chosen : ring.choose (some a) input = keys.choose (some a) input := by
        simp only [KeyRing.choose, found]
      exact unlock_eq listed listed' rfl (shared listed listed') chosen
        fun p => entryAt_eq distinct distinct' among listed
  · have same := alike.2 (Or.inl sized)
    refine ⟨congrArg _ same, alike, unlocked, ?_, fun a unshared => unshared.sameLast perm⟩
    intro a _
    exact unlocked same (some a)

/-- A key file and a directory in either order. -/
theorem list_perm_alone :
    let file := Entry.file (Text.utf8 (KeyFile.sealed "0000000000000000000000000000000000000001"))
    let entries := [("a.json", file), ("old", .directory)]
    let order := [("old", .directory), ("a.json", file)]
    entries.Perm order ∧ (entries.map Prod.fst).Nodup ∧
      (holding "/keys" entries).list = (holding "/keys" order).list := by
  intro file entries order
  have perm : entries.Perm order := List.Perm.swap _ _ _
  have distinct : (entries.map Prod.fst).Nodup := by decide
  have unshared (a : Address) : Unshared a entries := by
    have silent : ¬ Entry.directory.Claims a := by
      rintro ⟨bytes, claimed, -⟩
      cases claimed
    simp [Unshared, entries, silent]
  have shuffled := @list_perm "/keys" entries order perm distinct
  exact ⟨perm, distinct, shuffled.2.1.2 (Or.inr fun a => shuffled.2.2.2.2 a (unshared a))⟩

private theorem unlock_copies {copy : Entry} {bytes : Bytes} {fault : KeyFault}
    {first second : String} (apart : first ≠ second) (claimed : claimedAddress copy = some bytes)
    (sized : bytes.length = 20) (shut : copy.unlock "" = .error fault) :
    let dir := holding path [(first, copy), (second, copy)]
    let a := Address.ofBytes bytes
    dir.list = .ok [(a, joinPath path second)] ∧
      (dir.unlock (some a) (some (some [])) []).2 =
        .error (fault.message (joinPath path second)) := by
  intro dir a
  have listed : dir.list = .ok [(a, joinPath path second)] := by
    simp only [dir, list, holding, collect, claimed, Address.ofBytes?, if_pos sized, KeyRing.insert,
      if_true, pathOf, a]
  have blank : readPassword .absent (some (some [])) = .ok "" := by decide +kernel
  have stands : dir.entryAt (joinPath path second) = copy :=
    entryAt_pathOf rfl (by simpa using apart) (List.mem_cons_of_mem _ List.mem_cons_self)
  have found : KeyRing.find? [(a, joinPath path second)] a = some (joinPath path second) := by
    rw [KeyRing.find?_cons, if_pos rfl]
  refine ⟨listed, ?_⟩
  simp only [unlock, listed, KeyRing.choose, found, blank, stands, shut, Outcome.ofExcept, bind,
    Outcome.bind, Outcome.mapError]

private theorem said_sealed :
    (KeyFile.parse? (Text.utf8 (KeyFile.sealed "0000000000000000000000000000000000000001"))).map
      (fun file => (file.address, KeyFile.stretch (Text.utf8 "") file.stretching)) =
        some (some (Bytes.ofNat 20 1), none) := by
  rw [KeyFile.parse?_utf8]
  decide +kernel

private theorem unlock_of_unstretched {content address : Bytes} {password : String}
    (said : (KeyFile.parse? content).map
      (fun file => (file.address, KeyFile.stretch (Text.utf8 password) file.stretching)) =
        some (some address, none)) :
    claimedAddress (.file content) = some address ∧
      (Entry.file content).unlock password = .error .undecipherable := by
  obtain ⟨file, parsed, same⟩ := Option.map_eq_some_iff.1 said
  obtain ⟨stated, unstretched⟩ := Prod.mk.inj same
  constructor
  · simp only [claimedAddress, parsed, Option.bind_some, stated]
  · simp only [Entry.unlock, parsed, KeyFile.unlock, KeyFile.decipher, unstretched, bind,
      Outcome.bind]

/-- Of two copies of a key file, the one listed last stands for the address, and is the one that is
reported if the password does not open it. -/
theorem list_copies :
    let copy := Entry.file (Text.utf8 (KeyFile.sealed "0000000000000000000000000000000000000001"))
    let entries := [("a.json", copy), ("b.json", copy)]
    let order := [("b.json", copy), ("a.json", copy)]
    let a := Address.ofBytes (Bytes.ofNat 20 1)
    entries.Perm order ∧ (entries.map Prod.fst).Nodup ∧
      (holding "/keys" entries).list = .ok [(a, "/keys/b.json")] ∧
      (holding "/keys" order).list = .ok [(a, "/keys/a.json")] ∧
      ((holding "/keys" entries).unlock (some a) (some (some [])) []).2 =
        .error "Could not decrypt keystore file `/keys/b.json`" ∧
      ((holding "/keys" order).unlock (some a) (some (some [])) []).2 =
        .error "Could not decrypt keystore file `/keys/a.json`" := by
  intro copy entries order a
  obtain ⟨claimed, shut⟩ := unlock_of_unstretched said_sealed
  have sized : (Bytes.ofNat 20 1).length = 20 := by decide
  have forward := @unlock_copies "/keys" copy _ _ "a.json" "b.json" (by decide) claimed sized shut
  have backward := @unlock_copies "/keys" copy _ _ "b.json" "a.json" (by decide) claimed sized shut
  exact ⟨List.Perm.swap _ _ _, by decide, forward.1, backward.1, forward.2, backward.2⟩

end Order

end KeyDirectory

end NameRights
