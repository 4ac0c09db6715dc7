import EpochVoting.Address
import EpochVoting.FeeSide

/-!
# Derived accounts

The accounts that belong to a record are derived from the record's identity: one
fee vault and one pool fee account for each gauge and side, and one vault for
each bribe.  A name of a scenario, whatever it names, has an address of its own.
-/

namespace EpochVoting
namespace Account

/-- Holds the captured, not yet claimed fees of a gauge. -/
def feeVault (target : Address) (side : FeeSide) : Address :=
  Address.derive [Bytes.ofText "fee-vault", target.bytes, Bytes.ofText side.text]

/-- Holds the fees that a gauge's pool has accrued and nobody has captured. -/
def poolFees (target : Address) (side : FeeSide) : Address :=
  Address.derive [Bytes.ofText "pool-fees", target.bytes, Bytes.ofText side.text]

/-- Holds the escrowed, not yet settled rewards of a bribe. -/
def bribeVault (id : UInt64) : Address :=
  Address.derive [Bytes.ofText "bribe-vault", Bytes.littleEndian 8 id.toNat]

/-- The address of a name. -/
def named (name : String) : Address :=
  Address.derive [Bytes.ofText "gauge-sim", Bytes.ofText name]

end Account
end EpochVoting
