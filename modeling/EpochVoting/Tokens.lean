import EpochVoting.Error
import EpochVoting.Table

/-!
# Token balances

The token ledger holds a balance for each mint and account; a balance that was
never written is zero.  A refused transfer or issue changes nothing.
-/

namespace EpochVoting

/-- What an account holds of a mint. -/
structure Balance where
  mint : Address
  account : Address
  amount : UInt64
deriving DecidableEq

/-- A balance is filed under the mint and the account. -/
instance : Keyed Balance (Address × Address) := ⟨fun b => (b.mint, b.account)⟩

/-- All balances, and the number of transfers made. -/
structure TokenLedger where
  balances : Table Balance
  /-- A number of any size: one call makes few transfers, and nobody makes 2^64
  calls. -/
  transfers : Nat
deriving DecidableEq

namespace TokenLedger

/-- The ledger in which nobody holds anything. -/
def empty : TokenLedger := ⟨Table.empty, 0⟩

/-- What an account holds of a mint. -/
def balance (t : TokenLedger) (mint account : Address) : UInt64 :=
  ((t.balances.find? (mint, account)).map Balance.amount).getD 0

/-- The ledger with one balance replaced. -/
def setBalance (t : TokenLedger) (mint account : Address) (amount : UInt64) : TokenLedger :=
  { t with balances := t.balances.insert { mint, account, amount } }

/-- Creates new tokens in an account. -/
def issue (t : TokenLedger) (mint account : Address) (amount : UInt64) :
    Except ExternalError TokenLedger := do
  let total ← demand (.rejected "balance overflow")
    (Amount.add? (t.balance mint account) amount)
  return t.setBalance mint account total

/-- Moves tokens from one account to another.  A transfer to the same account
needs the balance and moves nothing. -/
def transfer (t : TokenLedger) (mint source target : Address) (amount : UInt64) :
    Except ExternalError TokenLedger := do
  let available := t.balance mint source
  let left ← demand (.insufficientFunds amount available) (Amount.sub? available amount)
  if source = target then
    return { t with transfers := t.transfers + 1 }
  else
    let credited ← demand (.rejected "balance overflow")
      (Amount.add? (t.balance mint target) amount)
    let moved := (t.setBalance mint source left).setBalance mint target credited
    return { moved with transfers := t.transfers + 1 }

/-- The sum of all balances of a mint, or the greatest amount if it is larger. -/
def totalSupply (t : TokenLedger) (mint : Address) : UInt64 :=
  ((t.balances.records.filter fun b => b.mint == mint).map Balance.amount).foldl
    Amount.addCapped 0

end TokenLedger
end EpochVoting
