import MailProvision.Cluster.Memory
import MailProvision.Main
import MailProvision.Schema.Pieces
import MailProvision.Proofs.Files.Entries
import MailProvision.Proofs.Files.Walking
import MailProvision.Proofs.Files.Places
import MailProvision.Proofs.Files.Staging
import MailProvision.Proofs.Certificate.Writing
import MailProvision.Proofs.Certificate.Minting
import MailProvision.Proofs.Certificate.Pairs
import MailProvision.Proofs.Files.Change
import MailProvision.Proofs.Files.ByPath
import MailProvision.Proofs.Files.Deposits
import MailProvision.Proofs.Files.Desk
import MailProvision.Proofs.Files.Protocol
import MailProvision.Proofs.Schema.Halting
import MailProvision.Proofs.Cluster.Memory
import MailProvision.Proofs.Cluster.Commands
import MailProvision.Proofs.Schema.History
import MailProvision.Proofs.Schema.Lifecycle
import MailProvision.Proofs.Schema.Mail
import MailProvision.Proofs.Schema.Reruns
import MailProvision.Proofs.Numeral.Decimal
import MailProvision.Proofs.Numeral.Rounding
import MailProvision.Proofs.Settings.Building
import MailProvision.Proofs.Settings.Library
import MailProvision.Proofs.Settings.Layering
import MailProvision.Proofs.Settings.Fields
import MailProvision.Proofs.Settings.Written
import MailProvision.Proofs.Settings.Integers.Merging
import MailProvision.Proofs.Settings.Integers.Toml
import MailProvision.Proofs.Settings.Integers.Yaml
import MailProvision.Proofs.Settings.Integers.Files
import MailProvision.Proofs.Config.Sections
import MailProvision.Proofs.Config.Loading
import MailProvision.Proofs.Config.Numbers
import MailProvision.Proofs.Config.Variables
import MailProvision.Proofs.Steps.Outcomes
import MailProvision.Proofs.Steps.Running
import MailProvision.Proofs.Steps.Order
import MailProvision.Proofs.Files.Outline
import MailProvision.Proofs.Certificate.Generating
import MailProvision.Proofs.Certificate.Armour
import MailProvision.Proofs.Certificate.Tagged
import MailProvision.Proofs.Certificate.Calendar
import MailProvision.Proofs.Certificate.Moments
import MailProvision.Proofs.Certificate.Names
import MailProvision.Proofs.Certificate.Keys
import MailProvision.Proofs.Certificate.Content
import MailProvision.Proofs.Schema.Script
import MailProvision.Proofs.Schema.Printing
import MailProvision.Proofs.Files.Glimpses
import MailProvision.Proofs.Certificate.Exposure
import MailProvision.Proofs.Text.Codes
import MailProvision.Proofs.Cluster.Credentials
import MailProvision.Proofs.Steps.Secrecy
import MailProvision.Proofs.Settings.Kept
import MailProvision.Proofs.Config.Leaves
import MailProvision.Proofs.CommandLine.Calls
import MailProvision.Proofs.CommandLine.Contract
import MailProvision.Proofs.Schema.Seeding
import MailProvision.Proofs.Schema.Arrangements
import MailProvision.Proofs.Certificate.Endings
import MailProvision.Proofs.Files.Raising
import MailProvision.Proofs.Steps.Certificate
import MailProvision.Proofs.Schema.Stripping
import MailProvision.Proofs.Certificate.Requirements
import MailProvision.Proofs.Certificate.Lifetime
import MailProvision.Proofs.Config.Database
import MailProvision.Proofs.Steps.Contacts
import MailProvision.Proofs.Cluster.ContactPoints
import MailProvision.Proofs.Cluster.HostLists
import MailProvision.Proofs.Messages
