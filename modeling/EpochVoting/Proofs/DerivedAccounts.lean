import EpochVoting.Proofs.Codecs
import EpochVoting.Proofs.Replays

/-!
# Derived accounts do not collide

The seeds of an address are hashed behind their lengths, so the bytes that are hashed determine
the seeds, unless a seed is too long for its length to be written (`Address.seedBytes_inj`).
The first seed of an account says what kind of account it is.  So the fee vaults, the pool fee
accounts, the bribe vaults and the accounts of names are hashed from different bytes, whatever
the name (`DerivedAccount.message_injective`).

Whether their addresses are different is then a matter of the hash alone.  There are more
accounts than addresses, so that no hash tells all of them apart; but those of a set have
different addresses if and only if the hash has no collision among what they are hashed from
(`DerivedAccount.derivation_separates`).  This is what is granted of the accounts in use
wherever vaults are concerned.
-/

namespace EpochVoting

namespace Bytes

theorem littleEndian_inj {width m n : Nat} (hm : m < 256 ^ width) (hn : n < 256 ^ width) :
    littleEndian width m = littleEndian width n ↔ m = n := by
  refine ⟨fun h => ?_, congrArg (littleEndian width)⟩
  rw [← toNat_littleEndian hm, h, toNat_littleEndian hn]

theorem ofText_inj {s t : String} : ofText s = ofText t ↔ s = t := by
  refine ⟨fun h => ?_, congrArg ofText⟩
  exact String.toByteArray_inj.mp (ByteArray.ext (Array.toList_inj.mp h))

end Bytes

namespace Address

variable {a b : Bytes} {s t : List Bytes}

/-! ## Seeds -/

theorem seedBytes_cons (a : Bytes) (s : List Bytes) :
    seedBytes (a :: s) = derivationTag ++ (Bytes.littleEndian 4 a.length ++
      (a ++ s.flatMap fun seed => Bytes.littleEndian 4 seed.length ++ seed)) := by
  rw [seedBytes, List.flatMap_cons, List.append_assoc]

/-- A seed adds four bytes at least. -/
theorem seedBytes_cons_ne_nil (a : Bytes) (s : List Bytes) :
    seedBytes (a :: s) ≠ seedBytes [] := by
  intro h
  rw [seedBytes_cons, seedBytes, List.append_cancel_left_eq] at h
  have hlength := congrArg List.length h
  rw [List.length_append, Bytes.length_littleEndian, List.flatMap_nil, List.length_nil] at hlength
  omega

/-- The length of the first seed, if it can be written, tells where the others begin. -/
theorem seedBytes_cons_inj (ha : a.length < 2 ^ 32) (hb : b.length < 2 ^ 32) :
    seedBytes (a :: s) = seedBytes (b :: t) ↔ a = b ∧ seedBytes s = seedBytes t := by
  constructor
  · intro h
    rw [seedBytes_cons, seedBytes_cons, List.append_cancel_left_eq] at h
    obtain ⟨hlengths, hrest⟩ := List.append_inj h (by simp only [Bytes.length_littleEndian])
    obtain ⟨hfirst, hothers⟩ := List.append_inj hrest ((Bytes.littleEndian_inj ha hb).mp hlengths)
    exact ⟨hfirst, congrArg (derivationTag ++ ·) hothers⟩
  · rintro ⟨rfl, h⟩
    rw [seedBytes, seedBytes, List.append_cancel_left_eq] at h
    rw [seedBytes_cons, seedBytes_cons, h]

/-- A last seed can have any length. -/
theorem seedBytes_singleton_inj : seedBytes [a] = seedBytes [b] ↔ a = b := by
  refine ⟨fun h => ?_, fun h => by rw [h]⟩
  rw [seedBytes_cons, seedBytes_cons, List.append_cancel_left_eq] at h
  obtain ⟨-, hseed⟩ := List.append_inj h (by simp only [Bytes.length_littleEndian])
  exact List.append_cancel_right hseed

/-- What is hashed for seeds whose lengths can be written are these seeds. -/
theorem seedBytes_inj (hs : ∀ seed ∈ s, seed.length < 2 ^ 32)
    (ht : ∀ seed ∈ t, seed.length < 2 ^ 32) : seedBytes s = seedBytes t ↔ s = t := by
  induction s generalizing t with
  | nil =>
    cases t with
    | nil => exact iff_of_true rfl rfl
    | cons b t => exact iff_of_false (seedBytes_cons_ne_nil b t).symm (List.cons_ne_nil b t).symm
  | cons a s ih =>
    cases t with
    | nil => exact iff_of_false (seedBytes_cons_ne_nil a s) (List.cons_ne_nil a s)
    | cons b t =>
      obtain ⟨ha, hs⟩ := List.forall_mem_cons.mp hs
      obtain ⟨hb, ht⟩ := List.forall_mem_cons.mp ht
      rw [seedBytes_cons_inj ha hb, ih hs ht, List.cons.injEq]

/-- Of a seed that is too long only the end of its length is written, so that it can be taken
for many empty seeds. -/
theorem seedBytes_of_long_seed :
    seedBytes [List.replicate (2 ^ 32) 0] = seedBytes (List.replicate (2 ^ 30 + 1) []) := by
  have hlength : Bytes.littleEndian 4 (2 ^ 32) = List.replicate 4 0 := by decide
  have hempty : Bytes.littleEndian 4 ([] : Bytes).length ++ [] = List.replicate 4 0 := by decide
  have hcount : 4 + 2 ^ 32 = (2 ^ 30 + 1) * 4 := by decide
  rw [seedBytes_cons, List.length_replicate, hlength, List.flatMap_nil, List.append_nil,
    List.replicate_append_replicate, hcount, seedBytes, List.flatMap_replicate, hempty,
    List.flatten_replicate_replicate]

end Address

/-! ## Accounts -/

/-- An account derived from seeds: one that the engine or the pool disposes of, or that of a
name. -/
inductive DerivedAccount where
  | custody (c : Custody)
  | named (name : String)
deriving DecidableEq

namespace DerivedAccount

/-- The account itself. -/
def address : DerivedAccount → Address
  | custody c => c.address
  | named name => Account.named name

/-- The kind of an account, which is its first seed. -/
def kind : DerivedAccount → String
  | custody (.feeVault ..) => "fee-vault"
  | custody (.poolFees ..) => "pool-fees"
  | custody (.bribeVault _) => "bribe-vault"
  | named _ => "gauge-sim"

/-- The further seeds, which tell apart the accounts of one kind. -/
def details : DerivedAccount → List Bytes
  | custody (.feeVault target side) => [target.bytes, Bytes.ofText side.text]
  | custody (.poolFees target side) => [target.bytes, Bytes.ofText side.text]
  | custody (.bribeVault id) => [Bytes.littleEndian 8 id.toNat]
  | named name => [Bytes.ofText name]

/-- The bytes that the address of an account is hashed from. -/
def message (x : DerivedAccount) : Bytes :=
  Address.seedBytes (Bytes.ofText x.kind :: x.details)

/-- The address of an account is the digest of its message. -/
theorem bytes_address (x : DerivedAccount) :
    x.address.bytes = Hash.Blake2b.digest x.message := by
  cases x with
  | custody c => cases c <;> rfl
  | named name => rfl

theorem length_kind (x : DerivedAccount) : (Bytes.ofText x.kind).length < 2 ^ 32 := by
  have hall : ∀ k ∈ ["fee-vault", "pool-fees", "bribe-vault", "gauge-sim"],
      (Bytes.ofText k).length < 2 ^ 32 := by decide
  refine hall x.kind ?_
  rcases x with (_ | _ | _) | _ <;> simp [kind]

/-- The target and the side are told from the seeds of an account of a gauge. -/
theorem ofGauge_inj {target target' : Address} {side side' : FeeSide}
    (h : Address.seedBytes [target.bytes, Bytes.ofText side.text] =
      Address.seedBytes [target'.bytes, Bytes.ofText side'.text]) :
    target = target' ∧ side = side' := by
  have hshort (a : Address) : a.bytes.length < 2 ^ 32 := by
    rw [a.length_bytes]
    decide
  obtain ⟨htarget, hside⟩ := (Address.seedBytes_cons_inj (hshort target) (hshort target')).mp h
  rw [Address.seedBytes_singleton_inj, Bytes.ofText_inj] at hside
  refine ⟨Address.ext_bytes htarget, ?_⟩
  cases side <;> cases side' <;> first | rfl | exact absurd hside (by decide)

/-- No two accounts are hashed from the same bytes. -/
theorem message_injective : Function.Injective message := by
  intro x y h
  obtain ⟨hkind, hdetails⟩ := (Address.seedBytes_cons_inj x.length_kind y.length_kind).mp h
  rw [Bytes.ofText_inj] at hkind
  -- Accounts of different kinds have different first seeds, so four of the cases remain.
  rcases x with (⟨target, side⟩ | ⟨target, side⟩ | ⟨id⟩) | ⟨name⟩ <;>
    rcases y with (⟨target', side'⟩ | ⟨target', side'⟩ | ⟨id'⟩) | ⟨name'⟩ <;>
    simp only [kind, String.reduceEq] at hkind
  · obtain ⟨rfl, rfl⟩ := ofGauge_inj hdetails
    rfl
  · obtain ⟨rfl, rfl⟩ := ofGauge_inj hdetails
    rfl
  · have hid := Address.seedBytes_singleton_inj.mp hdetails
    rw [Bytes.littleEndian_inj id.toNat_lt_size id'.toNat_lt_size, UInt64.toNat_inj] at hid
    rw [hid]
  · have hname := Address.seedBytes_singleton_inj.mp hdetails
    rw [Bytes.ofText_inj.mp hname]

/-- Accounts have different addresses if and only if the hash has no collision among what they
are hashed from. -/
theorem injOn_address_iff {S : Set DerivedAccount} :
    Set.InjOn address S ↔ Set.InjOn Hash.Blake2b.digest (message '' S) := by
  constructor
  · rintro hS _ ⟨x, hx, rfl⟩ _ ⟨y, hy, rfl⟩ hdigest
    rw [← bytes_address, ← bytes_address] at hdigest
    rw [hS hx hy (Address.ext_bytes hdigest)]
  · intro hS x hx y hy haddress
    refine message_injective (hS (Set.mem_image_of_mem _ hx) (Set.mem_image_of_mem _ hy) ?_)
    rw [← bytes_address, ← bytes_address, haddress]

/-- What is hashed for seeds determines them, as long as four bytes hold their lengths.  The fee
vaults, the pool fee accounts, the bribe vaults and the accounts of names, of any length, are
all hashed from different bytes; and wherever the hash has no collision among these, their
addresses are different as well. -/
theorem derivation_separates :
    (∀ s t : List Bytes, (∀ seed ∈ s, seed.length < 2 ^ 32) →
      (∀ seed ∈ t, seed.length < 2 ^ 32) →
      (Address.seedBytes s = Address.seedBytes t ↔ s = t)) ∧
    Function.Injective message ∧
    (∀ x : DerivedAccount, x.address.bytes = Hash.Blake2b.digest x.message) ∧
    ∀ S : Set DerivedAccount,
      Set.InjOn address S ↔ Set.InjOn Hash.Blake2b.digest (message '' S) :=
  ⟨fun _ _ hs ht => Address.seedBytes_inj hs ht, message_injective, bytes_address,
    fun _ => injOn_address_iff⟩

/-- One account of each kind. -/
def oneOfEach : List DerivedAccount :=
  [custody (.feeVault Address.zero .a), custody (.poolFees Address.zero .a),
    custody (.bribeVault 0), named "alice"]

/-- The same bytes cut at different places are hashed as different seeds, and the hash tells
accounts of different kinds apart. -/
theorem derivation_separates_kinds :
    Address.seedBytes [Bytes.ofText "ab", Bytes.ofText "c"] ≠
      Address.seedBytes [Bytes.ofText "a", Bytes.ofText "bc"] ∧
    Set.InjOn Hash.Blake2b.digest (message '' {x | x ∈ oneOfEach}) := by
  obtain ⟨hseeds, -, -, hcollisions⟩ := derivation_separates
  have hdistinct : (oneOfEach.map address).Nodup := by decide +kernel
  exact ⟨(hseeds _ _ (by decide) (by decide)).not.mpr (by decide),
    (hcollisions _).mp fun x hx y hy => List.inj_on_of_nodup_map hdistinct hx hy⟩

end DerivedAccount

/-! ## The accounts of a scenario -/

namespace Scenario

/-- The accounts and the tokens that a scenario names, and the accounts of its gauges and
bribes. -/
def derivedAccounts (s : Scenario) : Set DerivedAccount :=
  {x | (∃ name, (name ∈ s.accounts ∨ name ∈ s.mints) ∧ x = .named name) ∨
    ∃ c ∈ custodiesOf s.steps, x = .custody c}

/-- What is granted of the addresses of a scenario is that the hash has no collision among
them. -/
theorem distinct_of_injOn {s : Scenario}
    (h : Set.InjOn Hash.Blake2b.digest (DerivedAccount.message '' s.derivedAccounts)) :
    s.Distinct := by
  have haddress := DerivedAccount.injOn_address_iff.mpr h
  have hnamed {name : String} (hname : name ∈ s.accounts ∨ name ∈ s.mints) :
      DerivedAccount.named name ∈ s.derivedAccounts := Or.inl ⟨name, hname, rfl⟩
  have hcustody {c : Custody} (hc : c ∈ custodiesOf s.steps) :
      DerivedAccount.custody c ∈ s.derivedAccounts := Or.inr ⟨c, hc, rfl⟩
  constructor
  · intro a ha b hb hab
    exact DerivedAccount.named.inj (haddress (hnamed (Or.inl ha)) (hnamed (Or.inl hb)) hab)
  · intro m hm n hn hmn
    exact DerivedAccount.named.inj (haddress (hnamed (Or.inr hm)) (hnamed (Or.inr hn)) hmn)
  · intro c hc c' hc' heq
    exact DerivedAccount.custody.inj (haddress (hcustody hc) (hcustody hc') heq)
  · intro a ha c hc heq
    cases haddress (hcustody hc) (hnamed (Or.inl ha)) heq

end Scenario
end EpochVoting
