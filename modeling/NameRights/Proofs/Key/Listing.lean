/- NameRights/Proofs/Key/Listing
   digest: Which file of a directory is unlocked for an address, and when its key is the address's. -/

import NameRights.Key.Ring

set_option autoImplicit false
set_option relaxedAutoImplicit false

namespace NameRights

theorem Address.ofBytes?_eq_some {bytes : Bytes} {a : Address} :
    ofBytes? bytes = some a ↔ bytes.length = 20 ∧ ofBytes bytes = a := by
  unfold ofBytes?
  split
  · rename_i size
    simp only [size, true_and, Option.some.injEq]
  · rename_i size
    simp only [size, false_and, reduceCtorEq]

/-- What stands at a path is a key file that claims to be for an address. -/
def Entry.Claims (entry : Entry) (a : Address) : Prop :=
  ∃ bytes, KeyDirectory.claimedAddress entry = some bytes ∧ Address.ofBytes? bytes = some a

namespace KeyRing

theorem find?_cons (ring : KeyRing) (a b : Address) (path : String) :
    find? ((a, path) :: ring) b = if b = a then some path else ring.find? b := by
  unfold find?
  rw [List.lookup_cons]
  by_cases same : b = a
  · rw [if_pos same, beq_iff_eq.2 same]
  · rw [if_neg same, beq_eq_false_iff_ne.2 same]

private theorem find?_insert (ring : KeyRing) (a b : Address) (path : String) :
    (insert a path ring).find? b = if b = a then some path else ring.find? b := by
  induction ring with
  | nil => exact find?_cons [] a b path
  | cons entry ring ih =>
    obtain ⟨c, other⟩ := entry
    rw [insert]
    by_cases taken : c = a
    · subst taken
      rw [if_pos rfl, find?_cons, find?_cons]
      by_cases same : b = c
      · rw [if_pos same, if_pos same]
      · rw [if_neg same, if_neg same, if_neg same]
    · rw [if_neg taken]
      split
      · exact find?_cons _ a b path
      · rw [find?_cons, ih, find?_cons]
        by_cases here : b = c
        · subst here
          rw [if_pos rfl, if_neg taken, if_pos rfl]
        · rw [if_neg here, if_neg here]

end KeyRing

namespace KeyDirectory

/-- The last of the entries that claims an address, with those before and after it. -/
def LastClaim (a : Address) (entries : List (String × Entry)) (name : String) (entry : Entry) :
    Prop :=
  ∃ before after, entries = before ++ (name, entry) :: after ∧ entry.Claims a ∧
    ∀ e ∈ after, ¬ e.2.Claims a

/-- Every address that an entry claims has 20 bytes. -/
def SizedClaims (entries : List (String × Entry)) : Prop :=
  ∀ e ∈ entries, ∀ bytes, claimedAddress e.2 = some bytes → bytes.length = 20

theorem LastClaim.mem {a : Address} {entries : List (String × Entry)} {name : String} {entry : Entry}
    (claim : LastClaim a entries name entry) : (name, entry) ∈ entries := by
  obtain ⟨before, after, rfl, -⟩ := claim
  exact List.mem_append_right before List.mem_cons_self

theorem lastClaim_cons {a : Address} {e : String × Entry} {entries : List (String × Entry)}
    {name : String} {entry : Entry} :
    LastClaim a (e :: entries) name entry ↔ LastClaim a entries name entry ∨
      (e = (name, entry) ∧ entry.Claims a ∧ ∀ e ∈ entries, ¬ e.2.Claims a) := by
  constructor
  · rintro ⟨before, after, split, claims, last⟩
    cases before with
    | nil =>
      cases split
      exact Or.inr ⟨rfl, claims, last⟩
    | cons b before =>
      cases split
      exact Or.inl ⟨before, after, rfl, claims, last⟩
  · rintro (⟨before, after, rfl, claims, last⟩ | ⟨rfl, claims, last⟩)
    · exact ⟨e :: before, after, rfl, claims, last⟩
    · exact ⟨[], entries, rfl, claims, last⟩

/-- A ring that gathers entries gives an address the path of the last one that claims it, or what
it gave before if none does. -/
private theorem find?_collect {dir : KeyDirectory} {a : Address} {path : String}
    {entries : List (String × Entry)} {ring gathered : KeyRing}
    (collected : dir.collect entries ring = .ok gathered) :
    gathered.find? a = some path ↔
      (∃ name entry, LastClaim a entries name entry ∧ path = dir.pathOf name) ∨
      ((∀ e ∈ entries, ¬ e.2.Claims a) ∧ ring.find? a = some path) := by
  induction entries generalizing ring with
  | nil =>
    cases collected
    simp [LastClaim]
  | cons e entries ih =>
    obtain ⟨name, entry⟩ := e
    simp only [collect] at collected
    split at collected
    · rename_i unclaimed
      have silent : ∀ b, ¬ entry.Claims b := by
        rintro b ⟨bytes, claimed, -⟩
        rw [unclaimed] at claimed
        cases claimed
      rw [ih collected]
      simp only [lastClaim_cons, List.mem_cons, forall_eq_or_imp, silent a, not_false_eq_true,
        true_and]
      constructor
      · rintro (⟨name', entry', claim, rfl⟩ | kept)
        · exact Or.inl ⟨name', entry', Or.inl claim, rfl⟩
        · exact Or.inr kept
      · rintro (⟨name', entry', claim | ⟨same, claims, -⟩, rfl⟩ | kept)
        · exact Or.inl ⟨name', entry', claim, rfl⟩
        · cases same
          exact absurd claims (silent a)
        · exact Or.inr kept
    · rename_i bytes claimed
      split at collected
      · cases collected
      · rename_i b sized
        rw [ih collected, KeyRing.find?_insert]
        have claims : ∀ c, entry.Claims c ↔ c = b := by
          intro c
          simp only [Entry.Claims, claimed, Option.some.injEq, exists_eq_left', sized]
          exact eq_comm
        simp only [lastClaim_cons, List.mem_cons, forall_eq_or_imp, claims a]
        by_cases same : a = b
        · subst same
          simp only [if_pos, Option.some.injEq, not_true_eq_false, false_and, or_false]
          constructor
          · rintro (⟨name', entry', claim, rfl⟩ | ⟨last, rfl⟩)
            · exact ⟨name', entry', Or.inl claim, rfl⟩
            · exact ⟨name, entry, Or.inr ⟨rfl, (claims a).2 rfl, last⟩, rfl⟩
          · rintro ⟨name', entry', claim | ⟨same, -, last⟩, rfl⟩
            · exact Or.inl ⟨name', entry', claim, rfl⟩
            · cases same
              exact Or.inr ⟨last, rfl⟩
        · simp only [same, if_false, not_false_eq_true, true_and]
          constructor
          · rintro (⟨name', entry', claim, rfl⟩ | kept)
            · exact Or.inl ⟨name', entry', Or.inl claim, rfl⟩
            · exact Or.inr kept
          · rintro (⟨name', entry', claim | ⟨taken, claimed', -⟩, rfl⟩ | kept)
            · exact Or.inl ⟨name', entry', claim, rfl⟩
            · cases taken
              exact absurd ((claims a).1 claimed') same
            · exact Or.inr kept

/-- Entries are gathered unless one of them claims an address of another length. -/
theorem exists_collect_iff (dir : KeyDirectory) (entries : List (String × Entry))
    (ring : KeyRing) :
    (∃ gathered, dir.collect entries ring = .ok gathered) ↔ SizedClaims entries := by
  induction entries generalizing ring with
  | nil => simp [collect, SizedClaims]
  | cons e entries ih =>
    obtain ⟨name, entry⟩ := e
    simp only [SizedClaims, List.mem_cons, forall_eq_or_imp] at ih ⊢
    rw [collect]
    split
    · rename_i unclaimed
      rw [ih]
      simp only [unclaimed, reduceCtorEq, false_implies, implies_true, true_and]
    · rename_i bytes claimed
      simp only [claimed, Option.some.injEq, forall_eq']
      split
      · rename_i unsized
        have size : bytes.length ≠ 20 := by
          intro size
          rw [Address.ofBytes?, if_pos size] at unsized
          cases unsized
        simp only [reduceCtorEq, exists_false, size, false_and]
      · rename_i b sized
        rw [ih]
        simp only [(Address.ofBytes?_eq_some.1 sized).1, true_and]

/-- The file that is opened for an address: what stands at the path of the last entry that claims
it. -/
def Opens (dir : KeyDirectory) (a : Address) (entry : Entry) : Prop :=
  ∃ entries name claimant, dir.entries = some entries ∧ SizedClaims entries ∧
    LastClaim a entries name claimant ∧ entry = dir.entryAt (dir.pathOf name)

theorem find?_list {dir : KeyDirectory} {ring : KeyRing} {a : Address} {path : String}
    (listed : dir.list = .ok ring) :
    ring.find? a = some path ↔ ∃ entries name entry, dir.entries = some entries ∧
      LastClaim a entries name entry ∧ path = dir.pathOf name := by
  unfold list at listed
  split at listed
  · cases listed
  · rename_i entries present
    split at listed
    · rename_i gathered collected
      cases listed
      rw [find?_collect collected, present]
      constructor
      · rintro (⟨name, entry, claim, same⟩ | ⟨-, none⟩)
        · exact ⟨entries, name, entry, rfl, claim, same⟩
        · cases none
      · rintro ⟨_, name, entry, listed, claim, same⟩
        cases listed
        exact Or.inl ⟨name, entry, claim, same⟩
    · cases listed

theorem exists_list_iff {dir : KeyDirectory} :
    (∃ ring, dir.list = .ok ring) ↔ ∃ entries, dir.entries = some entries ∧ SizedClaims entries := by
  unfold list
  cases dir.entries with
  | none => simp only [reduceCtorEq, exists_false, false_and]
  | some entries =>
    simp only [Option.some.injEq, exists_eq_left', ← exists_collect_iff dir entries []]
    cases dir.collect entries [] with
    | ok gathered => simp
    | error reason => simp

private theorem mapError_eq_ok_iff {ε δ α : Type} {f : ε → δ} {x : Outcome ε α} {a : α} :
    x.mapError f = .ok a ↔ x = .ok a := by
  cases x <;> simp [Outcome.mapError]

private theorem unlock_of_list {dir : KeyDirectory} {ring : KeyRing} {a : Address}
    {password : Option PasswordFile} {input : Bytes} {terminal : Terminal} {key : SecretKey}
    (listed : dir.list = .ok ring) :
    (dir.unlock (some a) password input terminal).2 = .ok key ↔
      ∃ path word, ring.find? a = some path ∧ readPassword terminal password = .ok word ∧
        (dir.entryAt path).unlock word = .ok key := by
  cases ring with
  | nil => simp [unlock, listed, KeyRing.find?]
  | cons first ring =>
    simp only [unlock, listed, KeyRing.choose]
    cases KeyRing.find? (first :: ring) a with
    | none => simp [Outcome.ofExcept, bind, Outcome.bind]
    | some path =>
      simp only [Option.some.injEq]
      cases readPassword terminal password with
      | error e => simp [Outcome.ofExcept, bind, Outcome.bind]
      | ok word =>
        simp only [Outcome.ofExcept, bind, Outcome.bind, mapError_eq_ok_iff, Except.ok.injEq]
        simp

private theorem unlock_eq_ok_iff {dir : KeyDirectory} {a : Address} {password : Option PasswordFile}
    {input : Bytes} {terminal : Terminal} {key : SecretKey} :
    (dir.unlock (some a) password input terminal).2 = .ok key ↔
      ∃ entry word, dir.Opens a entry ∧ readPassword terminal password = .ok word ∧
        entry.unlock word = .ok key := by
  constructor
  · intro unlocked
    cases listed : dir.list with
    | aborted reason => simp [unlock, listed] at unlocked
    | error e => simp [unlock, listed] at unlocked
    | ok ring =>
      obtain ⟨path, word, found, read, opened⟩ := (unlock_of_list listed).1 unlocked
      obtain ⟨entries, name, claimant, present, claim, rfl⟩ := (find?_list listed).1 found
      obtain ⟨_, present', sized⟩ := exists_list_iff.1 ⟨ring, listed⟩
      cases present.symm.trans present'
      exact ⟨_, word, ⟨entries, name, claimant, present, sized, claim, rfl⟩, read, opened⟩
  · rintro ⟨_, word, ⟨entries, name, claimant, present, sized, claim, rfl⟩, read, opened⟩
    obtain ⟨ring, listed⟩ := exists_list_iff.2 ⟨entries, present, sized⟩
    have found := (find?_list listed).2 ⟨entries, name, claimant, present, claim, rfl⟩
    exact (unlock_of_list listed).2 ⟨dir.pathOf name, word, found, read, opened⟩

theorem joinPath_injective {path name other : String}
    (same : joinPath path name = joinPath path other) : name = other := by
  unfold joinPath at same
  have lists := congrArg String.toList same
  simp only [String.toList_append, List.append_assoc] at lists
  exact String.toList_injective (List.append_cancel_left (List.append_cancel_left lists))

theorem entryAt_pathOf {dir : KeyDirectory} {entries : List (String × Entry)}
    (present : dir.entries = some entries) (distinct : (entries.map Prod.fst).Nodup)
    {name : String} {entry : Entry} (listed : (name, entry) ∈ entries) :
    dir.entryAt (dir.pathOf name) = entry := by
  have found : (entries.find? fun e => dir.pathOf e.1 == dir.pathOf name) = some (name, entry) := by
    clear present
    induction entries with
    | nil => cases listed
    | cons e entries ih =>
      obtain ⟨fresh, distinct⟩ := List.nodup_cons.1 distinct
      rcases List.mem_cons.1 listed with rfl | later
      · exact List.find?_cons_of_pos (beq_self_eq_true _)
      · have other : (dir.pathOf e.1 == dir.pathOf name) = false := by
          apply beq_eq_false_iff_ne.2
          intro same
          exact fresh (joinPath_injective same ▸ List.mem_map_of_mem later)
        simp only [List.find?_cons, other]
        exact ih distinct later
  rw [entryAt, present]
  exact congrArg (fun e : Option (String × Entry) => (e.map (·.2)).getD .missing) found

/-- Where a directory lists a name once, the file opened for an address is the last one that claims
it. -/
theorem opens_iff {dir : KeyDirectory} {entries : List (String × Entry)}
    (present : dir.entries = some entries) (distinct : (entries.map Prod.fst).Nodup)
    {a : Address} {entry : Entry} :
    dir.Opens a entry ↔ SizedClaims entries ∧ ∃ name, LastClaim a entries name entry := by
  have stands {name : String} {claimant : Entry} (claim : LastClaim a entries name claimant) :
      dir.entryAt (dir.pathOf name) = claimant :=
    entryAt_pathOf present distinct claim.mem
  constructor
  · rintro ⟨_, name, claimant, present', sized, claim, rfl⟩
    cases present.symm.trans present'
    rw [stands claim]
    exact ⟨sized, name, claim⟩
  · rintro ⟨sized, name, claim⟩
    exact ⟨entries, name, entry, present, sized, claim, (stands claim).symm⟩

/-- Unlocking keeps to an address exactly if the secret in the file opened for it does. Nothing else
compares the two. -/
theorem unlock_keeps_address_iff (dir : KeyDirectory) (a : Address)
    (password : Option PasswordFile) (input : Bytes) (terminal : Terminal) :
    (∀ key, (dir.unlock (some a) password input terminal).2 = .ok key → key.address = a) ↔
      ∀ entry word key, dir.Opens a entry → readPassword terminal password = .ok word →
        entry.unlock word = .ok key → key.address = a := by
  constructor
  · intro kept entry word key opens read opened
    exact kept key (unlock_eq_ok_iff.2 ⟨entry, word, opens, read, opened⟩)
  · intro kept key unlocked
    obtain ⟨entry, word, opens, read, opened⟩ := unlock_eq_ok_iff.1 unlocked
    exact kept entry word key opens read opened

end KeyDirectory

end NameRights
