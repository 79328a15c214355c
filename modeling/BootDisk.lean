import BootDisk.Abort
import BootDisk.BootParameters
import BootDisk.Bytes
import BootDisk.Cluster
import BootDisk.Command.FileTree
import BootDisk.Command.Host
import BootDisk.Command.Listing
import BootDisk.Command.Request
import BootDisk.Command.Run
import BootDisk.Command.World
import BootDisk.DirectoryEntry
import BootDisk.Event
import BootDisk.Hexadecimal
import BootDisk.Kernel
import BootDisk.Layout
import BootDisk.LittleEndian
import BootDisk.Loader
import BootDisk.Machine
import BootDisk.Main
import BootDisk.Memory
import BootDisk.Partition
import BootDisk.Proofs.Bare.Access
import BootDisk.Proofs.Bare.Directory
import BootDisk.Proofs.Bare.Read
import BootDisk.Proofs.Bare.Runs
import BootDisk.Proofs.Bare.Volume
import BootDisk.Proofs.Boot
import BootDisk.Proofs.Chain
import BootDisk.Proofs.Checked.Read
import BootDisk.Proofs.Checked.Volume
import BootDisk.Proofs.Checked.Words
import BootDisk.Proofs.Command.Buffer
import BootDisk.Proofs.Command.Effects
import BootDisk.Proofs.Command.OptionGroups
import BootDisk.Proofs.Command.Output
import BootDisk.Proofs.Command.Storage
import BootDisk.Proofs.Command.Survey
import BootDisk.Proofs.Command.TreeStorage
import BootDisk.Proofs.Comparisons
import BootDisk.Proofs.Contiguous
import BootDisk.Proofs.Directory
import BootDisk.Proofs.DisplayedNames
import BootDisk.Proofs.Entries
import BootDisk.Proofs.Footprint
import BootDisk.Proofs.Kernel.Ending
import BootDisk.Proofs.Kernel.Failure
import BootDisk.Proofs.Kernel.Translation
import BootDisk.Proofs.Load
import BootDisk.Proofs.Locality
import BootDisk.Proofs.Lockstep
import BootDisk.Proofs.Messages
import BootDisk.Proofs.NameGrammar
import BootDisk.Proofs.OpenOutcome
import BootDisk.Proofs.Opening
import BootDisk.Proofs.Operations
import BootDisk.Proofs.Outcome
import BootDisk.Proofs.Patches
import BootDisk.Proofs.Prefixes
import BootDisk.Proofs.Presence
import BootDisk.Proofs.Read
import BootDisk.Proofs.ReadAccount
import BootDisk.Proofs.ReadOutcome
import BootDisk.Proofs.Regions
import BootDisk.Proofs.Resolve
import BootDisk.Proofs.Room
import BootDisk.Proofs.RoundTrip
import BootDisk.Proofs.Scan
import BootDisk.Proofs.Stages
import BootDisk.Proofs.Store
import BootDisk.Proofs.Supply
import BootDisk.Proofs.Turns
import BootDisk.Proofs.Walk
import BootDisk.Settings
import BootDisk.ShortName
import BootDisk.Volume
import BootDisk.Volume.Directory
import BootDisk.Volume.Load
import BootDisk.Volume.Open
import BootDisk.Volume.Read
import BootDisk.Volume.Walk
