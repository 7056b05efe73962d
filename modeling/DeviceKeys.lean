import DeviceKeys.Bytes
import DeviceKeys.Text.Blank
import DeviceKeys.Text.Lowercase
import DeviceKeys.Bits
import DeviceKeys.Text.Numeral
import DeviceKeys.Text.Printable
import DeviceKeys.Text.Quoted
import DeviceKeys.Hash.Keccak
import DeviceKeys.Hash.Sha3
import DeviceKeys.Hash.Hmac
import DeviceKeys.Hash.Hkdf
import DeviceKeys.Region
import DeviceKeys.Field
import DeviceKeys.Error
import DeviceKeys.Uuid
import DeviceKeys.RootSecret
import DeviceKeys.Key
import DeviceKeys.Mailbox
import DeviceKeys.Device
import DeviceKeys.Program
import DeviceKeys.Machine
import DeviceKeys.Handle
import DeviceKeys.Medium
import DeviceKeys.Settings
import DeviceKeys.Report
import DeviceKeys.Keeper
import DeviceKeys.Answer
import DeviceKeys.Vault
import DeviceKeys.Session
import DeviceKeys.CommandLine.Arguments
import DeviceKeys.CommandLine.Execution
import DeviceKeys.Main
import DeviceKeys.Proofs.Contract
import DeviceKeys.Proofs.Ledger
import DeviceKeys.Proofs.Visits
import DeviceKeys.Proofs.Burning
import DeviceKeys.Proofs.Honesty
import DeviceKeys.Proofs.Provision
import DeviceKeys.Proofs.Completion
import DeviceKeys.Proofs.Guarded
import DeviceKeys.Proofs.WriteOnce
import DeviceKeys.Proofs.Contender
import DeviceKeys.Proofs.Race
import DeviceKeys.Proofs.Runs
import DeviceKeys.Proofs.Secret
import DeviceKeys.Proofs.Permanence
import DeviceKeys.Proofs.Opening
import DeviceKeys.Proofs.KeyStability
import DeviceKeys.Proofs.Diagnostics
import DeviceKeys.Proofs.InitReport
import DeviceKeys.Proofs.Usability
import DeviceKeys.Proofs.Twins
import DeviceKeys.Proofs.Discretion
import DeviceKeys.Proofs.Secrecy
import DeviceKeys.Proofs.Excerpts
import DeviceKeys.Proofs.Brackets
import DeviceKeys.Proofs.Confinement
import DeviceKeys.Proofs.Deeds
import DeviceKeys.Proofs.Idle
import DeviceKeys.Proofs.Accounts
import DeviceKeys.Proofs.Ownership
import DeviceKeys.Proofs.Options
import DeviceKeys.Proofs.KeyCommands
import DeviceKeys.Proofs.Lockstep
import DeviceKeys.Proofs.Agreement
import DeviceKeys.Proofs.Observation
import DeviceKeys.Proofs.Isolation
import DeviceKeys.Proofs.Override
import DeviceKeys.Proofs.Survey
import DeviceKeys.Proofs.KeyStream
import DeviceKeys.Proofs.Classification
import DeviceKeys.Proofs.Genuine
import DeviceKeys.Proofs.Codec
import DeviceKeys.Proofs.KeyShapes
import DeviceKeys.Proofs.Salts
import DeviceKeys.Proofs.Offers
import DeviceKeys.Proofs.Lifecycle
import DeviceKeys.Proofs.Traceless
import DeviceKeys.Proofs.Resolution
import DeviceKeys.Proofs.TextForms
import DeviceKeys.Proofs.Custody
