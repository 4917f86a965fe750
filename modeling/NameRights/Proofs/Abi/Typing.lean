/- NameRights/Proofs/Abi/Typing
   digest: Values that are exactly of a type. Reading comes to such values or to one of two
   faults. -/

import NameRights.Proofs.Abi.Placement
import NameRights.Proofs.Result

set_option autoImplicit false
set_option relaxedAutoImplicit false

namespace NameRights.Abi

namespace Value

mutual

/-- The value is one of the type: a byte string of a fixed length has that length, and a tuple has
all the fields of its type. -/
def Belongs : Value → Kind → Prop
  | address _, .address => True
  | fixedBytes b, .fixedBytes size => b.length = size
  | bytes _, .bytes => True
  | int _, .int _ => True
  | uint _, .uint _ => True
  | bool _, .bool => True
  | string _, .string => True
  | fixedArray items, .fixedArray kind size => items.length = size ∧ AllBelong items kind
  | array items, .array kind => AllBelong items kind
  | tuple fields, .tuple kinds => ListBelongs fields kinds
  | _, _ => False

def AllBelong : List Value → Kind → Prop
  | [], _ => True
  | v :: vs, kind => v.Belongs kind ∧ AllBelong vs kind

def ListBelongs : List Value → List Kind → Prop
  | [], [] => True
  | v :: vs, kind :: kinds => v.Belongs kind ∧ ListBelongs vs kinds
  | _, _ => False

end

theorem ListBelongs.length_eq {vs : List Value} {kinds : List Kind}
    (belong : ListBelongs vs kinds) : vs.length = kinds.length := by
  induction vs generalizing kinds with
  | nil =>
    cases kinds with
    | nil => rfl
    | cons kind kinds => exact absurd belong (by simp [ListBelongs])
  | cons v vs ih =>
    cases kinds with
    | nil => exact absurd belong (by simp [ListBelongs])
    | cons kind kinds => simp [ih belong.2]

mutual

theorem fits_of_belongs : (v : Value) → (kind : Kind) → v.Belongs kind → v.fits kind = .ok true
  | address _, .address, _ => rfl
  | fixedBytes b, .fixedBytes size, belongs => by
    have short : b.length ≤ size := Nat.le_of_eq belongs
    simp only [fits, short, decide_true]
  | bytes _, .bytes, _ => rfl
  | int _, .int _, _ => rfl
  | uint _, .uint _, _ => rfl
  | bool _, .bool, _ => rfl
  | string _, .string, _ => rfl
  | fixedArray items, .fixedArray kind size, belongs => by
    rw [fits, if_pos belongs.1.symm]
    exact allFit_of_belong items kind belongs.2
  | array items, .array kind, belongs => allFit_of_belong items kind belongs
  | tuple fields, .tuple kinds, belongs => fieldsFit_of_belong fields kinds belongs

private theorem allFit_of_belong : (vs : List Value) → (kind : Kind) → AllBelong vs kind →
    allFit vs kind = .ok true
  | [], _, _ => rfl
  | v :: vs, kind, belong => by
    simp only [allFit, fits_of_belongs v kind belong.1, bind, Except.bind, if_true]
    exact allFit_of_belong vs kind belong.2

private theorem fieldsFit_of_belong :
    (vs : List Value) → (kinds : List Kind) → ListBelongs vs kinds →
    fieldsFit vs kinds = .ok true
  | [], [], _ => rfl
  | v :: vs, kind :: kinds, belong => by
    simp only [fieldsFit, fits_of_belongs v kind belong.1, bind, Except.bind, if_true]
    exact fieldsFit_of_belong vs kinds belong.2

end

theorem listFits_of_belong {vs : List Value} {kinds : List Kind} (belong : ListBelongs vs kinds) :
    listFits vs kinds = .ok true := by
  rw [listFits, if_pos belong.length_eq]
  exact fieldsFit_of_belong vs kinds belong

end Value

open Value Result

private theorem allBelong_of_repeated {read : Nat → Except Fault (Value × Nat)} {kind : Kind}
    (reads : ∀ offset v next, read offset = .ok (v, next) → v.Belongs kind)
    {count offset next : Nat} {vs : List Value}
    (read_all : repeated read count offset = .ok (vs, next)) :
    vs.length = count ∧ AllBelong vs kind := by
  induction count generalizing offset next vs with
  | zero =>
    obtain ⟨rfl, -⟩ := Prod.mk.inj (Except.ok.inj read_all)
    exact ⟨rfl, trivial⟩
  | succ count ih =>
    obtain ⟨⟨v, middle⟩, first, read_all⟩ := bind_eq_ok.1 read_all
    obtain ⟨⟨ws, last⟩, others, read_all⟩ := bind_eq_ok.1 read_all
    obtain ⟨rfl, -⟩ := Prod.mk.inj (Except.ok.inj read_all)
    obtain ⟨length, belong⟩ := ih others
    exact ⟨by rw [List.length_cons, length], reads offset v middle first, belong⟩

mutual

private theorem belongs_of_valueAt (kind : Kind) (data : Bytes) (offset : Nat) (v : Value)
    (next : Nat)
    (read : valueAt kind data offset = .ok (v, next)) : v.Belongs kind := by
  cases kind with
  | address | bool | bytes | string | int _ | uint _ =>
    obtain ⟨b, -, read⟩ := bind_eq_ok.1 read
    obtain ⟨rfl, -⟩ := Prod.mk.inj (Except.ok.inj read)
    exact trivial
  | fixedBytes size =>
    obtain ⟨b, found, read⟩ := bind_eq_ok.1 read
    obtain ⟨rfl, -⟩ := Prod.mk.inj (Except.ok.inj read)
    exact (bytesAt_eq_ok.1 found).1
  | array item =>
    obtain ⟨start, -, read⟩ := bind_eq_ok.1 read
    obtain ⟨count, -, read⟩ := bind_eq_ok.1 read
    obtain ⟨⟨items, last⟩, items_read, read⟩ := bind_eq_ok.1 read
    obtain ⟨rfl, -⟩ := Prod.mk.inj (Except.ok.inj read)
    exact (allBelong_of_repeated (belongs_of_valueAt item _) items_read).2
  | fixedArray item size =>
    obtain ⟨⟨body, start⟩, -, read⟩ := bind_eq_ok.1 read
    obtain ⟨⟨items, last⟩, items_read, read⟩ := bind_eq_ok.1 read
    obtain ⟨rfl, -⟩ := Prod.mk.inj (Except.ok.inj read)
    exact allBelong_of_repeated (belongs_of_valueAt item _) items_read
  | tuple kinds =>
    obtain ⟨⟨body, start⟩, -, read⟩ := bind_eq_ok.1 read
    obtain ⟨⟨fields, last⟩, fields_read, read⟩ := bind_eq_ok.1 read
    obtain ⟨rfl, -⟩ := Prod.mk.inj (Except.ok.inj read)
    exact listBelongs_of_valuesAt kinds _ _ _ _ fields_read

private theorem listBelongs_of_valuesAt (kinds : List Kind) (data : Bytes) (offset : Nat)
    (vs : List Value) (next : Nat) (read : valuesAt kinds data offset = .ok (vs, next)) :
    ListBelongs vs kinds := by
  cases kinds with
  | nil =>
    obtain ⟨rfl, -⟩ := Prod.mk.inj (Except.ok.inj read)
    exact trivial
  | cons kind kinds =>
    obtain ⟨⟨v, middle⟩, first, read⟩ := bind_eq_ok.1 read
    obtain ⟨⟨ws, last⟩, others, read⟩ := bind_eq_ok.1 read
    obtain ⟨rfl, -⟩ := Prod.mk.inj (Except.ok.inj read)
    exact ⟨belongs_of_valueAt kind data offset v middle first,
      listBelongs_of_valuesAt kinds data middle ws last others⟩

end

/-- Whatever the data are, what is decoded from them is of the types asked for. -/
theorem listBelongs_of_decode {kinds : List Kind} {data : Bytes} {vs : List Value}
    (decoded : decode kinds data = .ok vs) : ListBelongs vs kinds := by
  unfold decode at decoded
  split at decoded
  · cases decoded
  · obtain ⟨⟨ws, next⟩, read, rfl⟩ := map_eq_ok.1 decoded
    exact listBelongs_of_valuesAt kinds data 0 ws next read

section Faults

variable {data : Bytes} {offset : Nat} {fault : Fault}

private theorem fault_of_bytesAt {count : Nat} (failed : bytesAt data offset count = .error fault) :
    fault = .invalidData := by
  unfold bytesAt at failed
  split at failed
  · cases failed
  · exact (Except.error.inj failed).symm

private theorem fault_of_wordAt (failed : wordAt data offset = .error fault) :
    fault = .invalidData := by
  rw [wordAt_eq_bytesAt] at failed
  exact fault_of_bytesAt failed

private theorem fault_of_sizeAt (failed : sizeAt data offset = .error fault) :
    fault = .invalidData := by
  rcases bind_eq_error.1 failed with failed | ⟨b, -, failed⟩
  · exact fault_of_wordAt failed
  · split at failed
    · cases failed
    · exact (Except.error.inj failed).symm

private theorem fault_of_boolAt (failed : boolAt data offset = .error fault) :
    fault = .invalidData := by
  rcases bind_eq_error.1 failed with failed | ⟨b, -, failed⟩
  · exact fault_of_wordAt failed
  · split at failed
    · cases failed
    · exact (Except.error.inj failed).symm

private theorem fault_of_countedAt (failed : countedAt data offset = .error fault) :
    fault = .invalidData := by
  rcases bind_eq_error.1 failed with failed | ⟨start, -, failed⟩
  · exact fault_of_sizeAt failed
  rcases bind_eq_error.1 failed with failed | ⟨count, -, failed⟩
  · exact fault_of_sizeAt failed
  · exact fault_of_bytesAt failed

private theorem fault_of_listAt {dynamic : Bool}
    (failed : listAt dynamic data offset = .error fault) :
    fault = .invalidData := by
  unfold listAt at failed
  split at failed
  · rcases bind_eq_error.1 failed with failed | ⟨start, -, failed⟩
    · exact fault_of_sizeAt failed
    · split at failed
      · cases failed
      · exact (Except.error.inj failed).symm
  · cases failed

private theorem fault_of_repeated {read : Nat → Except Fault (Value × Nat)}
    (reads : ∀ offset fault, read offset = .error fault → fault = .invalidData) {count : Nat}
    (failed : repeated read count offset = .error fault) : fault = .invalidData := by
  induction count generalizing offset with
  | zero => cases failed
  | succ count ih =>
    rcases bind_eq_error.1 failed with failed | ⟨⟨v, middle⟩, -, failed⟩
    · exact reads offset fault failed
    rcases bind_eq_error.1 failed with failed | ⟨⟨vs, last⟩, -, failed⟩
    · exact ih failed
    · cases failed

mutual

private theorem fault_of_valueAt (kind : Kind) (data : Bytes) (offset : Nat) (fault : Fault)
    (failed : valueAt kind data offset = .error fault) : fault = .invalidData := by
  cases kind with
  | address | int _ | uint _ =>
    rcases bind_eq_error.1 failed with failed | ⟨b, -, failed⟩
    · exact fault_of_wordAt failed
    · cases failed
  | bool =>
    rcases bind_eq_error.1 failed with failed | ⟨b, -, failed⟩
    · exact fault_of_boolAt failed
    · cases failed
  | fixedBytes size =>
    rcases bind_eq_error.1 failed with failed | ⟨b, -, failed⟩
    · exact fault_of_bytesAt failed
    · cases failed
  | bytes | string =>
    rcases bind_eq_error.1 failed with failed | ⟨b, -, failed⟩
    · exact fault_of_countedAt failed
    · cases failed
  | array item =>
    rcases bind_eq_error.1 failed with failed | ⟨start, -, failed⟩
    · exact fault_of_sizeAt failed
    rcases bind_eq_error.1 failed with failed | ⟨count, -, failed⟩
    · exact fault_of_sizeAt failed
    rcases bind_eq_error.1 failed with failed | ⟨⟨items, last⟩, -, failed⟩
    · exact fault_of_repeated (fault_of_valueAt item _) failed
    · cases failed
  | fixedArray item size =>
    rcases bind_eq_error.1 failed with failed | ⟨⟨body, start⟩, -, failed⟩
    · exact fault_of_listAt failed
    rcases bind_eq_error.1 failed with failed | ⟨⟨items, last⟩, -, failed⟩
    · exact fault_of_repeated (fault_of_valueAt item _) failed
    · cases failed
  | tuple kinds =>
    rcases bind_eq_error.1 failed with failed | ⟨⟨body, start⟩, -, failed⟩
    · exact fault_of_listAt failed
    rcases bind_eq_error.1 failed with failed | ⟨⟨fields, last⟩, -, failed⟩
    · exact fault_of_valuesAt kinds _ _ _ failed
    · cases failed

private theorem fault_of_valuesAt (kinds : List Kind) (data : Bytes) (offset : Nat) (fault : Fault)
    (failed : valuesAt kinds data offset = .error fault) : fault = .invalidData := by
  cases kinds with
  | nil => cases failed
  | cons kind kinds =>
    rcases bind_eq_error.1 failed with failed | ⟨⟨v, middle⟩, -, failed⟩
    · exact fault_of_valueAt kind data offset fault failed
    rcases bind_eq_error.1 failed with failed | ⟨⟨vs, last⟩, -, failed⟩
    · exact fault_of_valuesAt kinds data middle fault failed
    · cases failed

end

/-- Data are refused for their layout, or because there are none. -/
theorem fault_of_decode {kinds : List Kind} (failed : decode kinds data = .error fault) :
    fault = .invalidData ∨ fault = emptyData := by
  unfold decode at failed
  split at failed
  · exact .inr (Except.error.inj failed).symm
  · refine .inl (fault_of_valuesAt kinds data 0 fault ?_)
    cases read : valuesAt kinds data 0 with
    | ok pair =>
      rw [read] at failed
      cases failed
    | error other =>
      rw [read] at failed
      cases failed
      rfl

end Faults

end NameRights.Abi
