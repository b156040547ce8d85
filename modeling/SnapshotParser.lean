import SnapshotParser.Rust
import SnapshotParser.Bytes
import SnapshotParser.Vsr.Accounts
import SnapshotParser.Vsr.Lockup
import SnapshotParser.Vsr.Cliffs
import SnapshotParser.Vsr.VotingMintConfig
import SnapshotParser.Vsr.DepositEntry
import SnapshotParser.Vsr.Vesting
import SnapshotParser.Vsr.Decay
import SnapshotParser.Vsr.Overflow
import SnapshotParser.Processors.Vemnde
import SnapshotParser.DbConnection
import SnapshotParser.Filters
import SnapshotParser.Processors.Rows
import SnapshotParser.Processors.Programs
import SnapshotParser.TokensCli
import SnapshotParser.ValidatorMeta
import SnapshotParser.Jito.Parser
import SnapshotParser.Jito.Fetch
