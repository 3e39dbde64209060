import Textwork.Main
import Textwork.Proofs.Markup.Stripping
import Textwork.Proofs.Markup.Seams
import Textwork.Proofs.Directive.Formatted
import Textwork.Proofs.Directive.Faults
import Textwork.Proofs.Directive.Grammar
import Textwork.Proofs.Directive.Matches
import Textwork.Proofs.Directive.Writing
import Textwork.Proofs.Directive.CustomFill
import Textwork.Proofs.Directive.Failures
import Textwork.Proofs.Markup.Values
import Textwork.Proofs.Markup.KeptTags
import Textwork.Proofs.Directive.NoArguments
import Textwork.Proofs.Catalogue.Subject
import Textwork.Proofs.CommandLine.Chaining
import Textwork.Proofs.Number.Notation
import Textwork.Proofs.Directive.Floats
import Textwork.Proofs.Directive.Unsigned
import Textwork.Proofs.Text.Wrapping
import Textwork.Proofs.Text.Words
import Textwork.Proofs.Text.Clusters
import Textwork.Proofs.Text.LineBreaks
import Textwork.Proofs.Text.Reversal
import Textwork.Proofs.Text.Occurrences
import Textwork.Proofs.Text.Shortening
import Textwork.Proofs.Catalogue.Searching
import Textwork.Proofs.Markup.Entities
import Textwork.Proofs.Text.TitleCase
import Textwork.Proofs.Directive.Integers
import Textwork.Proofs.Number.NearestBinary
import Textwork.Proofs.Value.FloatText
import Textwork.Proofs.Value.Truncation
import Textwork.Proofs.Text.Slugs
import Textwork.Proofs.Text.NormalForms
import Textwork.Proofs.Chain.Agreement
import Textwork.Proofs.Text.Positions
import Textwork.Proofs.Text.Extraction
import Textwork.Proofs.Text.Padding
import Textwork.Proofs.Settings
import Textwork.Proofs.Value.Numeric
import Textwork.Proofs.Markup.Visits
import Textwork.Proofs.Text.Containment
import Textwork.Proofs.Text.Latinised
import Textwork.Proofs.Text.LetterCase
import Textwork.Proofs.Catalogue.Roles
