import BootcampSolana.Lib.LittleEndian
import BootcampSolana.Lib.Base58
import BootcampSolana.Lib.Percent
import BootcampSolana.Lib.SearchDown
import BootcampSolana.Lib.Machine
import BootcampSolana.Lib.Batch
import BootcampSolana.Lib.Tally
import BootcampSolana.Lib.Codec
import BootcampSolana.Lib.Base64
import BootcampSolana.Lib.Hex
import BootcampSolana.Lib.Decimal
import BootcampSolana.Lib.Binary64
import BootcampSolana.Lib.Ledger
import BootcampSolana.Rust
import BootcampSolana.Console
import BootcampSolana.Session
import BootcampSolana.Solana.Pubkey
import BootcampSolana.Solana.Pda
import BootcampSolana.Solana.Program
import BootcampSolana.Solana.Runtime
import BootcampSolana.Solana.System
import BootcampSolana.CounterPda.Program
import BootcampSolana.CounterPda.Increment
import BootcampSolana.CounterPda.Initialize
import BootcampSolana.CounterPda.World
import BootcampSolana.CounterPda.Accounting
import BootcampSolana.CounterPda.History
import BootcampSolana.CounterPda.Isolation
import BootcampSolana.CounterPda.Client
import BootcampSolana.CounterPda.Funding
import BootcampSolana.CounterPda.Transaction
import BootcampSolana.CounterPda.Bank
import BootcampSolana.CounterPda.Exercise
import BootcampSolana.CounterPda.Lamports
import BootcampSolana.Clients.Instructions
import BootcampSolana.Clients.WireFormat
import BootcampSolana.Clients.Addresses
import BootcampSolana.Clients.TokenAccounts
import BootcampSolana.Clients.TokenLayout
import BootcampSolana.Clients.Decoders
import BootcampSolana.Clients.Tags
import BootcampSolana.TransactionLifecycle.Message
import BootcampSolana.TransactionLifecycle.Compile
import BootcampSolana.TransactionLifecycle.PacketSize
import BootcampSolana.TransactionLifecycle.Watch
import BootcampSolana.TransactionLifecycle.Explorer
import BootcampSolana.TransactionLifecycle.FeeReport
import BootcampSolana.Inspector.Address
import BootcampSolana.Inspector.Rent
import BootcampSolana.Inspector.Dump
import BootcampSolana.Inspector.Report
import BootcampSolana.HelloSolana.Program
import BootcampSolana.HelloSolana.Accounts
import BootcampSolana.HelloSolana.History
import BootcampSolana.Solana.Cluster
import BootcampSolana.TransactionLifecycle.Chain
import BootcampSolana.TransactionLifecycle.Exceed
import BootcampSolana.TransactionLifecycle.Printout
import BootcampSolana.SplToken.Programs
import BootcampSolana.SplToken.Implementation
import BootcampSolana.SplToken.Exercise
import BootcampSolana.FourPrograms.Exercise
