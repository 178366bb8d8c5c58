import Imagewright.Blueprint.Document
import Imagewright.Blueprint.Outline
import Imagewright.Catalog.Fedora
import Imagewright.Catalog.Listing
import Imagewright.Catalog.Outline
import Imagewright.Compose.Journal
import Imagewright.Deployment
import Imagewright.Disk.Summary
import Imagewright.Manifest.Assembly
import Imagewright.Packages.RepositoryStore
import Imagewright.Proofs.Blueprint.Containment
import Imagewright.Proofs.Catalog.Lookups
import Imagewright.Proofs.Compose.Execution
import Imagewright.Proofs.Compose.Deadlines
import Imagewright.Proofs.Compose.Tags
import Imagewright.Proofs.Disk.Contents
import Imagewright.Proofs.Disk.Logical
import Imagewright.Proofs.Disk.Mountpoints
import Imagewright.Proofs.Disk.Policies
import Imagewright.Proofs.Disk.Threshold
import Imagewright.Proofs.Disk.Tiling
import Imagewright.Proofs.Manifest.Accounts
import Imagewright.Proofs.Manifest.Addresses
import Imagewright.Proofs.Manifest.Commits
import Imagewright.Proofs.Manifest.Downloads
import Imagewright.Proofs.Manifest.Filesystems
import Imagewright.Proofs.Manifest.Mounts
import Imagewright.Proofs.Manifest.Nodes
import Imagewright.Proofs.Manifest.Packages
import Imagewright.Proofs.Manifest.Provisioning
import Imagewright.Proofs.Manifest.Seeds
import Imagewright.Proofs.Manifest.Totality
import Imagewright.Proofs.Manifest.Units
import Imagewright.Proofs.Manifest.Warnings
import Imagewright.Proofs.Manifest.WellFormed
import Imagewright.Proofs.Packages.PackageSets
import Imagewright.Proofs.Packages.RepositoryFiles
import Imagewright.Proofs.Request.AllowList
import Imagewright.Proofs.Request.Tree
import Imagewright.Proofs.Resolve.Direct
import Imagewright.Proofs.Resolve.HelperAnswers
import Imagewright.Proofs.Resolve.Repositories
import Imagewright.Proofs.Service.Answers
import Imagewright.Proofs.Settings
import Imagewright.Resolve.Depsolve
import Imagewright.Resolve.Direct
import Imagewright.Service.Basic
import Imagewright.Service.Standard
import Imagewright.Proofs.Blueprint.Sizes
import Imagewright.Proofs.Disk.IdentifierForms
import Imagewright.Proofs.Text.Acceptance
import Imagewright.Proofs.Text.Patterns
import Imagewright.Proofs.Log.Rules
import Imagewright.Proofs.Log.Passwords
import Imagewright.Proofs.Log.Secrets
