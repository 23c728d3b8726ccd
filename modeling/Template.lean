import Template.Host.Directory
import Template.Main
import Template.Proofs.Grammar
import Template.Proofs.Plan
import Template.Resolver.Rule
import Template.Session
import Template.Proofs.Strictness
import Template.Proofs.Building
import Template.Proofs.Dependencies
import Template.Proofs.Joining
import Template.Proofs.Finality
import Template.Proofs.Accounting
import Template.Proofs.Concatenation
import Template.Proofs.Stages
import Template.Proofs.Delivery
import Template.Proofs.Inputs
import Template.Proofs.Unwritable
import Template.Proofs.Names
import Template.Proofs.Listing
import Template.Proofs.Wording
import Template.Proofs.Switching
import Template.Proofs.Canonical
