import FieldRules.Yaml.Reading
import FieldRules.Unchecked
import FieldRules.Proofs.Rule.StableLiterals
import FieldRules.Proofs.Rule.Diagnosis
import FieldRules.Proofs.Rule.DistinctTexts
import FieldRules.Proofs.Schema.WrittenDocument
import FieldRules.Proofs.Schema.WellFormed
import FieldRules.Proofs.Schema.DropNotices
import FieldRules.Proofs.Group.Overlap
import FieldRules.Proofs.Group.Reordering
import FieldRules.Proofs.Group.Appending
import FieldRules.Proofs.Value.Writable
import FieldRules.Proofs.Schema.Declaring
import FieldRules.Proofs.Schema.Described
import FieldRules.Proofs.Schema.ShownDepth
import FieldRules.Proofs.Group.TypeFilter
import FieldRules.Proofs.Schema.Growing
import FieldRules.Proofs.Faults
import FieldRules.Proofs.Yaml.Scanning
import FieldRules.Proofs.Yaml.Composing
import FieldRules.Proofs.Yaml.Constructing
import FieldRules.Proofs.Schema.Loading
import FieldRules.Proofs.Yaml.Reading
import FieldRules.Proofs.Settings
import FieldRules.Proofs.Schema.NotedFailures
import FieldRules.Proofs.Value.Writable
