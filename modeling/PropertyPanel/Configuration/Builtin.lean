/-
This file holds the configuration that a panel uses when it is given no other.
-/

import PropertyPanel.Configuration.Text

namespace PropertyPanel.Configuration

def builtinText : String := r#"{
    "version": "1.0",
    "description": "Flowable properties panel configuration",
    "locations": {
        "attribute": [
            { "property": "$id" }
        ],
        "documentation": [
            { "property": "documentation", "type": "bpmn:Documentation", "array": true }
        ],
        "flowable:field": [
            { "property": "extensionElements", "type": "bpmn:ExtensionElements" },
            { "property": "values", "type": "flowable:Field", "array": true, "where": { "name": "$id" } },
            { "property": "stringValue" }
        ],
        "flowable:field[]": [
            { "property": "extensionElements", "type": "bpmn:ExtensionElements" },
            { "property": "values", "type": "flowable:Field", "array": true, "where": { "name": "$id" } },
            { "property": "value", "type": "flowable:String" }
        ]
    },
    "elements": {
        "common": {
            "id": { "location": "attribute", "readonly": true },
            "name": { "location": "attribute" },
            "documentation": { "location": "documentation", "type": "textArea" }
        },
        "bpmn:ScriptTask": {
            "scriptFormat": { "location": "attribute", "values": ["groovy", "javascript"] },
            "script": { "location": "attribute", "type": "textArea" }
        },
        "bpmn:UserTask": {
            "flowable:assignee": { "location": "attribute" },
            "flowable:priority": { "location": "attribute", "type": "integer" }
        },
        "bpmn:ServiceTask": {
            "http": {
                "criteria": [
                    { "id": "flowable:type", "location": "attribute", "value": "http" }
                ],
                "fields": {
                    "requestMethod": { "location": "flowable:field", "values": ["GET", "POST", "PUT", "DELETE"] },
                    "requestUrl": { "location": "flowable:field" },
                    "requestBody": { "location": "flowable:field", "type": "textArea" },
                    "requestBodyEncoding": { "location": "flowable:field" },
                    "requestHeaders": { "location": "flowable:field[]", "type": "textArea" },
                    "requestTimeout": { "location": "flowable:field", "type": "integer" },
                    "disallowRedirects": { "location": "flowable:field", "type": "boolean" },
                    "failStatusCodes": { "location": "flowable:field" },
                    "handleStatusCodes": { "location": "flowable:field" },
                    "responseVariableName": { "location": "flowable:field" },
                    "ignoreException": { "location": "flowable:field", "type": "boolean" },
                    "saveRequestVariables": { "location": "flowable:field", "type": "boolean" },
                    "saveResponseParameters": { "location": "flowable:field", "type": "boolean" },
                    "resultVariablePrefix": { "location": "flowable:field" },
                    "saveResponseParametersTransient": { "location": "flowable:field", "type": "boolean" },
                    "saveResponseVariableAsJson": { "location": "flowable:field", "type": "boolean" }
                }
            },
            "ai": {
                "criteria": [
                    { "id": "flowable:delegateExpression", "location": "attribute", "value": "${aiDelegate}" }
                ],
                "fields": {
                    "systemPrompt": { "location": "flowable:field", "type": "textArea" },
                    "userPrompt": { "location": "flowable:field", "type": "textArea" },
                    "answer": { "location": "flowable:field", "type": "textArea" }
                }
            },
            "java": {
                "criteria": [
                    { "id": "flowable:delegateExpression", "location": "attribute" }
                ],
                "fields": {
                    "flowable:delegateExpression": { "location": "attribute", "name": "Delegate Expression" }
                }
            }
        }
    }
}
"#

def builtin : Except ConfigurationError Configuration := ofJsonText builtinText

end PropertyPanel.Configuration
