import TlsIdentity.Text.Invisible
import TlsIdentity.Text.Quoted
import TlsIdentity.Text.Split
import TlsIdentity.Text.Utf8
import TlsIdentity.HostName
import TlsIdentity.HostName.Pattern
import TlsIdentity.HostSet
import TlsIdentity.Entries
import TlsIdentity.IdentityTable
import TlsIdentity.Address.IPv4
import TlsIdentity.Address.IPv6
import TlsIdentity.PeerName
import TlsIdentity.Event
import TlsIdentity.Credential
import TlsIdentity.Engine.Backend
import TlsIdentity.Engine.Fault
import TlsIdentity.Engine.Verifier
import TlsIdentity.Engine.Connection
import TlsIdentity.Engine
import TlsIdentity.ConfigError
import TlsIdentity.Trust
import TlsIdentity.Configuration.Settings
import TlsIdentity.Configuration.Sides
import TlsIdentity.Configuration.Customizer
import TlsIdentity.Configuration.Mutation
import TlsIdentity.Profile
import TlsIdentity.Draft
import TlsIdentity.Handshake
import TlsIdentity.Files.Source
import TlsIdentity.Files.Directory
import TlsIdentity.Files.Base64
import TlsIdentity.Files.Pem
import TlsIdentity.Files.Load
import TlsIdentity.CommandLine.IdentityArgument
import TlsIdentity.CommandLine.Options
import TlsIdentity.CommandLine.Apply
import TlsIdentity.Workbench
import TlsIdentity.Catalogue
import TlsIdentity.Catalogue.Sample
import TlsIdentity.Catalogue.Samples
import TlsIdentity.Proofs.CanonicalNames
import TlsIdentity.Proofs.Runs
import TlsIdentity.Proofs.Exclusion
import TlsIdentity.Proofs.BuiltProfiles
import TlsIdentity.Proofs.RunParts
import TlsIdentity.Proofs.Configurations
import TlsIdentity.Proofs.BypassScope
import TlsIdentity.Proofs.PeerSpellings
import TlsIdentity.Proofs.ReportedPolicy
import TlsIdentity.Proofs.TableHistory
import TlsIdentity.Proofs.RegistrationOrder
import TlsIdentity.Proofs.SignatureChecks
import TlsIdentity.Proofs.Handshakes
import TlsIdentity.Proofs.HandshakeSteps
import TlsIdentity.Proofs.KnownCertificates
import TlsIdentity.Proofs.PresentedIdentity
import TlsIdentity.Proofs.ClientAdmission
import TlsIdentity.Proofs.PublishedMatching
import TlsIdentity.Proofs.RespelledRuns
import TlsIdentity.Proofs.AppliedOptions
import TlsIdentity.Proofs.StoredNames
import TlsIdentity.Proofs.ClientExtension
import TlsIdentity.Proofs.Interleavings
import TlsIdentity.Proofs.Lineages
import TlsIdentity.Proofs.Snapshots
import TlsIdentity.Proofs.Relations
import TlsIdentity.Proofs.GivenValues
import TlsIdentity.Proofs.LoadedOptions
import TlsIdentity.Proofs.ResolvedWords
import TlsIdentity.Proofs.CustomizersInTurn
import TlsIdentity.Proofs.Labels
import TlsIdentity.Proofs.TableListing
import TlsIdentity.Proofs.LiveIdentities
import TlsIdentity.Proofs.FirstFailure
import TlsIdentity.Proofs.PatternGrammar
import TlsIdentity.Proofs.WrittenPatterns
import TlsIdentity.Proofs.MalformedHosts
import TlsIdentity.Proofs.PatternMeaning
import TlsIdentity.Proofs.WrittenArguments
import TlsIdentity.Proofs.RoleSeparation
import TlsIdentity.Proofs.TrustAnchors
import TlsIdentity.Proofs.ConsistentCredentials
