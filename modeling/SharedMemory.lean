import SharedMemory.Proofs.Accepted
import SharedMemory.Proofs.Accounts
import SharedMemory.Proofs.Causes
import SharedMemory.Proofs.Convertible
import SharedMemory.Proofs.Creation
import SharedMemory.Proofs.Downgrade
import SharedMemory.Proofs.Failure
import SharedMemory.Proofs.Frozen
import SharedMemory.Proofs.Gallery
import SharedMemory.Proofs.Guid.Order
import SharedMemory.Proofs.HandOff
import SharedMemory.Proofs.Hardening
import SharedMemory.Proofs.Identity
import SharedMemory.Proofs.Interchange
import SharedMemory.Proofs.Json.Checked
import SharedMemory.Proofs.Lasting
import SharedMemory.Proofs.Layout.Rounding
import SharedMemory.Proofs.Logging
import SharedMemory.Proofs.Names
import SharedMemory.Proofs.Objects
import SharedMemory.Proofs.Received
import SharedMemory.Proofs.Spellings
import SharedMemory.Proofs.Swap
import SharedMemory.Proofs.Text.Places
import SharedMemory.Proofs.Truthful
import SharedMemory.Proofs.Writers
import SharedMemory.Session.DescriptorPairs
import SharedMemory.Session.Regions
import SharedMemory.Session.SealedFiles
import SharedMemory.Session.Windows
import SharedMemory.Wire.Records
import SharedMemory.Proofs.Session.Sealed
