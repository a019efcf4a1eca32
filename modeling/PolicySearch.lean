import PolicySearch.Main
import PolicySearch.Session.Play
import PolicySearch.Proofs.Session.Rebuilds
import PolicySearch.Proofs.Session.LastBegun
import PolicySearch.Proofs.Session.Provenance
import PolicySearch.Proofs.FirstSeen
import PolicySearch.Proofs.Index.CrossReferences
import PolicySearch.Proofs.Search.Connections
import PolicySearch.Proofs.Search.Parts
import PolicySearch.Proofs.Server.AsAlone
import PolicySearch.Proofs.Server.Ready
import PolicySearch.Proofs.Server.Switch
import PolicySearch.Proofs.Server.Refused
import PolicySearch.Proofs.Session.Listed
import PolicySearch.Proofs.Session.Links
import PolicySearch.Proofs.Session.Rejected
import PolicySearch.Proofs.Client.Transparent
import PolicySearch.Proofs.Client.Growing
import PolicySearch.Proofs.Tool.Paging
import PolicySearch.Proofs.CommandLine.Agreement
import PolicySearch.Proofs.Search.AnyCase
import PolicySearch.Proofs.Session.Isolated
import PolicySearch.Proofs.Tool.LookedUp
import PolicySearch.Proofs.Session.LastSet
import PolicySearch.Proofs.Session.Fetches
import PolicySearch.Proofs.Index.Documents
import PolicySearch.Proofs.Search.Facets
import PolicySearch.Proofs.Document.TextFields
import PolicySearch.Proofs.Document.Tags
import PolicySearch.Proofs.Search.ModeWords
import PolicySearch.Proofs.Session.Limits
import PolicySearch.Proofs.Reference.Offered
