/-
This file holds the diagram that a new project starts with.
-/

namespace PropertyPanel

def sampleDiagramText : String := r#"{
    "types": [
        "bpmn:Documentation",
        "bpmn:ExtensionElements",
        "flowable:Field",
        "flowable:String",
        "flowable:Expression"
    ],
    "elements": [
        {
            "id": "startEvent",
            "type": "bpmn:StartEvent",
            "businessObject": { "$type": "bpmn:StartEvent", "id": "startEvent", "name": "Start" }
        },
        {
            "id": "userTask",
            "type": "bpmn:UserTask",
            "businessObject": {
                "$type": "bpmn:UserTask",
                "id": "userTask",
                "name": "Review Request",
                "flowable:assignee": "john.doe@company.com",
                "flowable:priority": 75,
                "documentation": [
                    { "$type": "bpmn:Documentation", "$body": "Documentation 1" },
                    { "$type": "bpmn:Documentation", "$body": "Documentation 2" }
                ]
            }
        },
        {
            "id": "serviceTask",
            "type": "bpmn:ServiceTask",
            "businessObject": {
                "$type": "bpmn:ServiceTask",
                "id": "serviceTask",
                "name": "Call API",
                "flowable:type": "http",
                "documentation": [
                    { "$type": "bpmn:Documentation", "$body": "Documentation 222" }
                ],
                "extensionElements": {
                    "$type": "bpmn:ExtensionElements",
                    "values": [
                        { "$type": "flowable:Field", "name": "requestMethod", "stringValue": "GET" },
                        { "$type": "flowable:Field", "name": "requestUrl", "stringValue": "localhost:8080" }
                    ]
                }
            }
        },
        {
            "id": "scriptTask",
            "type": "bpmn:ScriptTask",
            "businessObject": {
                "$type": "bpmn:ScriptTask",
                "id": "scriptTask",
                "name": "Compute",
                "scriptFormat": "groovy"
            }
        },
        {
            "id": "endEvent",
            "type": "bpmn:EndEvent",
            "businessObject": { "$type": "bpmn:EndEvent", "id": "endEvent", "name": "End" }
        }
    ]
}
"#

end PropertyPanel
